import CompactHttp.Proofs.Redirection
import CompactHttp.Proofs.UrlHosts
import Mathlib.Data.List.TakeWhile

/-! # Redirects to another path of the same host

A location that is only a path is seen from the root of the host that was asked, as a URL with
the scheme of these messages. Where the host is a name or an address of four octets, it is read
out of that URL as it was (`Url.parse_root`), and so the redirect leads to the path on the same
host, over the link that there is. An address of eight groups, whose brackets are gone, makes
no URL (`Url.parse_root_of_v6`), and the redirect cannot be followed.
-/

namespace CompactHttp

namespace Url

variable {chars front rest : List Char} {text host : String} {char stop : Char}

/-- A text in which all shows is taken as it is. -/
theorem clean_of_visible (visible : ∀ char ∈ text.toList, 0x20 < char.toNat) :
    clean text = text.toList := by
  have outside {chars : List Char} (among : ∀ char ∈ chars, char ∈ text.toList) :
      chars.dropWhile (fun char => char.toNat ≤ 0x20) = chars := by
    refine List.dropWhile_eq_self_iff.mpr fun some => ?_
    have shows := visible _ (among _ (List.getElem_mem some))
    simpa using shows
  unfold clean
  dsimp only
  rw [outside fun _ => id, outside fun _ => List.mem_reverse.mp, List.reverse_reverse,
    List.filter_eq_self]
  intro char member
  have shows := visible char member
  simp only [Bool.and_eq_true, bne_iff_ne, ne_eq]
  refine ⟨⟨?_, ?_⟩, ?_⟩ <;>
  · rintro rfl
    revert shows
    decide

/-! ## Paths -/

/-- Whether a character is a letter, a digit, or one of a few that stand for themselves in every
path, of which a slash is one and a full stop is none. -/
def isPathChar (char : Char) : Bool := char.isAlphanum || "-_~/".toList.contains char

/-- The characters of a path are ASCII. -/
theorem toNat_lt_of_isPathChar (inPath : isPathChar char = true) : char.toNat < 128 := by
  rw [isPathChar, Bool.or_eq_true] at inPath
  obtain word | mark := inPath
  · delta Char.isAlphanum Char.isAlpha Char.isUpper Char.isLower Char.isDigit at word
    simp only [Bool.or_eq_true, Bool.and_eq_true, decide_eq_true_eq] at word
    obtain (⟨-, upper⟩ | ⟨-, lower⟩) | ⟨-, digit⟩ := word
    · exact Nat.lt_of_le_of_lt (UInt32.le_iff_toNat_le.mp upper) (by decide)
    · exact Nat.lt_of_le_of_lt (UInt32.le_iff_toNat_le.mp lower) (by decide)
    · exact Nat.lt_of_le_of_lt (UInt32.le_iff_toNat_le.mp digit) (by decide)
  · have marks : ∀ char ∈ "-_~/".toList, char.toNat < 128 := forall_mem_of_all (by decide)
    exact marks char (List.contains_iff_mem.mp mark)

/-- What a character of a path is not. -/
theorem isPathChar_cases (inPath : isPathChar char = true) :
    0x20 < char.toNat ∧ (char != '?' && char != '#') = true ∧ char ≠ '\\' ∧
      char.toLower ≠ '.' ∧ char.toLower ≠ '%' ∧ Percent.path char = false := by
  have all : ∀ code < 128, isPathChar (Char.ofNat code) = true →
      0x20 < (Char.ofNat code).toNat ∧ (Char.ofNat code != '?' && Char.ofNat code != '#') = true ∧
        Char.ofNat code ≠ '\\' ∧ (Char.ofNat code).toLower ≠ '.' ∧
        (Char.ofNat code).toLower ≠ '%' ∧ Percent.path (Char.ofNat code) = false := by
    decide
  exact forall_char_of_forall_code (fun char => isPathChar char = true →
    0x20 < char.toNat ∧ (char != '?' && char != '#') = true ∧ char ≠ '\\' ∧
      char.toLower ≠ '.' ∧ char.toLower ≠ '%' ∧ Percent.path char = false)
    all (toNat_lt_of_isPathChar inPath) inPath

section Path

variable (inPath : ∀ char ∈ chars, isPathChar char = true)
include inPath

/-- A path is cut at its slashes. -/
theorem segments_of_isPathChar :
    segments .general chars = (splitAtChar '/' chars).map String.ofList := by
  have unified : (chars.map fun char => if SchemeKind.general.isSlash char then '/' else char) =
      chars := by
    rw [List.map_congr_left fun char member => ?_, List.map_id]
    have slash : SchemeKind.general.isSlash char = true → char = '/' := by
      simp [SchemeKind.isSlash]
    split
    · next here => exact (slash here).symm
    · rfl
  unfold segments
  dsimp only
  rw [unified]
  refine List.map_congr_left fun part among => String.toList_injective ?_
  rw [String.toList_ofList]
  refine Percent.toList_encode_of_kept fun char member => ?_
  have here := inPath char (of_mem_splitAtChar among member).1
  exact ⟨toNat_lt_of_isPathChar here, (isPathChar_cases here).2.2.2.2.2⟩

/-- No segment of such a path is one of dots. -/
theorem isDot_of_isPathChar {segment : String} (within : ∀ char ∈ segment.toList, char ∈ chars) :
    isDoubleDot segment = false ∧ isSingleDot segment = false := by
  have unmarked : ∀ mark ∈ segment.toLower.toList, ¬(mark = '.' ∨ mark = '%') := by
    intro mark member
    change mark ∈ (segment.map Char.toLower).toList at member
    rw [String.toList_map, List.mem_map] at member
    obtain ⟨char, among, rfl⟩ := member
    obtain ⟨-, -, -, dot, percent, -⟩ := isPathChar_cases (inPath char (within char among))
    exact not_or.mpr ⟨dot, percent⟩
  have apart {forms : List String}
      (marked : (forms.all fun form => form.toList.any fun mark => mark = '.' ∨ mark = '%') = true) :
      forms.contains segment.toLower = false := by
    refine Bool.eq_false_iff.mpr fun same => ?_
    obtain ⟨mark, member, marks⟩ := List.any_eq_true.mp
      (List.all_eq_true.mp marked _ (List.contains_iff_mem.mp same))
    exact unmarked mark member (of_decide_eq_true marks)
  exact ⟨apart (by decide), apart (by decide)⟩

end Path

/-- Segments that are no dots are put behind the others. -/
theorem addSegments_of_isDot {path parts : List String}
    (plain : ∀ part ∈ parts, isDoubleDot part = false ∧ isSingleDot part = false) :
    addSegments path parts = parts.reverse ++ path := by
  induction parts generalizing path with
  | nil => rfl
  | cons part rest ih =>
    obtain ⟨double, single⟩ := plain part List.mem_cons_self
    rw [addSegments]
    simp only [double, single, Bool.false_eq_true, if_false, Bool.or_false, Bool.and_false]
    rw [ih fun other member => plain other (List.mem_cons_of_mem part member),
      List.reverse_cons, List.append_assoc, List.singleton_append]

/-- A path of such characters is written as it was. -/
theorem pathText_of_isPathChar (inPath : ∀ char ∈ chars, isPathChar char = true) :
    (pathText (addSegments [] (segments .general chars))).toList = '/' :: chars := by
  rw [segments_of_isPathChar inPath, addSegments_of_isDot, List.append_nil, pathText,
    List.reverse_reverse, String.toList_append, String.toList_intercalate, map_toList_map_ofList]
  · exact congrArg ('/' :: ·) (intercalate_splitAtChar '/' chars)
  · intro segment member
    obtain ⟨part, among, rfl⟩ := List.mem_map.mp member
    refine isDot_of_isPathChar inPath fun char inside => ?_
    rw [String.toList_ofList] at inside
    exact (of_mem_splitAtChar among inside).1

/-! ## The root of a host -/

/-- Whether a character may stand between the slashes and the port or the path of a URL. -/
def isInner (char : Char) : Bool :=
  0x20 < char.toNat && !SchemeKind.general.endsAuthority char && char != '@' && char != '[' &&
    char != ']'

/-- A character of a host may stand inside, and is no colon. -/
theorem isInner_of_isPlain (plain : UrlHost.isPlain char = true) :
    isInner char = true ∧ char ≠ ':' := by
  have all : ∀ code < 127, UrlHost.isPlain (Char.ofNat code) = true →
      isInner (Char.ofNat code) = true ∧ Char.ofNat code ≠ ':' := by
    decide
  have below : char.toNat < 127 := by
    simp only [UrlHost.isPlain, Bool.and_eq_true, decide_eq_true_eq] at plain
    exact plain.1.2
  exact forall_char_of_forall_code (fun char => UrlHost.isPlain char = true →
    isInner char = true ∧ char ≠ ':') all below plain

theorem isInner_of_groupChars : ∀ char ∈ Ipv6.groupChars, isInner char = true ∧
    (char ≠ ':' → UrlHost.isPlain char = true) ∧
    SchemeKind.special.endsAuthority char = false :=
  forall_mem_of_all (by decide)

/-- A character inside ends nothing, and is no mark of its own. -/
theorem endsAuthority_of_isInner (inner : isInner char = true) :
    SchemeKind.general.endsAuthority char = false ∧ char ≠ '@' ∧ char ≠ '[' ∧ char ≠ ']' := by
  simp only [isInner, Bool.and_eq_true, Bool.not_eq_true', bne_iff_ne, and_assoc] at inner
  exact inner.2

/-- The characters of a host that is asked, and those of the root behind it. -/
theorem parse_base (inner : ∀ char ∈ host.toList, isInner char = true) :
    parse (Redirect.scheme ++ "://" ++ host ++ "/") =
      parseAuthority Redirect.scheme (host.toList ++ ['/']) := by
  have chars : (Redirect.scheme ++ "://" ++ host ++ "/").toList =
      'q' :: 'h' :: ':' :: '/' :: '/' :: (host.toList ++ ['/']) := by
    simp [String.toList_append, Redirect.scheme]
  have visible : ∀ char ∈ (Redirect.scheme ++ "://" ++ host ++ "/").toList,
      0x20 < char.toNat := by
    intro char member
    simp only [chars, List.mem_cons, List.mem_append, List.not_mem_nil, or_false] at member
    obtain rfl | rfl | rfl | rfl | rfl | among | rfl := member
    case inr.inr.inr.inr.inr.inl =>
      simp only [isInner, Bool.and_eq_true, decide_eq_true_eq] at inner
      exact (inner char among).1.1.1.1
    all_goals decide
  rw [parse, clean_of_visible visible, chars]
  rfl

/-- What fits is taken up to the first that does not. -/
theorem takeWhile_of_stop {test : Char → Bool} (all : ∀ char ∈ front, test char = true)
    (stops : test stop = false) : (front ++ stop :: rest).takeWhile test = front := by
  induction front with
  | nil => rw [List.nil_append, List.takeWhile_cons_of_neg (by simp [stops])]
  | cons first front ih =>
    rw [List.cons_append, List.takeWhile_cons_of_pos (all first List.mem_cons_self),
      ih fun char member => all char (List.mem_cons_of_mem first member)]

/-- In a host there is no user. -/
theorem skipUser_of_isInner (inner : ∀ char ∈ front, isInner char = true) :
    skipUser .general (front ++ ['/']) = .ok (false, front ++ ['/']) := by
  have authority : (front ++ ['/']).takeWhile (fun char => !SchemeKind.general.endsAuthority char) =
      front := by
    refine takeWhile_of_stop (fun char member => ?_) (by decide)
    rw [(endsAuthority_of_isInner (inner char member)).1]
    rfl
  have noUser : front.contains '@' = false := by
    refine Bool.eq_false_iff.mpr fun contained => ?_
    exact (endsAuthority_of_isInner (inner '@' (List.contains_iff_mem.mp contained))).2.1 rfl
  unfold skipUser
  dsimp only
  rw [authority, noUser]
  rfl

/-- A host is split off at the colon or slash behind it. -/
theorem splitHost_of_isInner (inner : ∀ char ∈ front, isInner char = true ∧ char ≠ ':')
    (stops : stop = ':' ∨ stop = '/') (rest : List Char) :
    splitHost .general false (front ++ stop :: rest) = (front, stop :: rest) := by
  induction front with
  | nil => obtain rfl | rfl := stops <;> rfl
  | cons first front ih =>
    obtain ⟨here, noColon⟩ := inner first List.mem_cons_self
    obtain ⟨goesOn, -, noOpening, noClosing⟩ := endsAuthority_of_isInner here
    rw [List.cons_append, splitHost, if_neg (by simp [goesOn, noColon])]
    simp only [beq_iff_eq, noOpening, noClosing, if_false]
    rw [ih fun char member => inner char (List.mem_cons_of_mem first member)]

/-- Plain characters are the name of a host. -/
theorem parseOpaque_of_isPlain (plain : ∀ char ∈ chars, UrlHost.isPlain char = true) :
    UrlHost.parseOpaque chars = .ok (.name (String.ofList chars)) := by
  have allowed : chars.any UrlHost.isForbidden = false := by
    rw [List.any_eq_false]
    intro char member
    have allowed := plain char member
    rw [UrlHost.isPlain, Bool.and_eq_true, Bool.not_eq_true'] at allowed
    exact Bool.eq_false_iff.mp allowed.2
  have kept : Percent.encode Percent.controls chars = String.ofList chars := by
    refine String.toList_injective ?_
    rw [String.toList_ofList]
    refine Percent.toList_encode_of_kept fun char member => ?_
    have shows := plain char member
    simp only [UrlHost.isPlain, Bool.and_eq_true, decide_eq_true_eq] at shows
    refine ⟨by omega, ?_⟩
    simp only [Percent.controls, Bool.or_eq_false_iff, decide_eq_false_iff_not, beq_eq_false_iff_ne]
    omega
  unfold UrlHost.parseOpaque
  split
  · next rest => exact absurd (plain '[' List.mem_cons_self) (by decide)
  · rw [if_neg (by simp [allowed]), kept]

/-- The scheme of the program has no rules of its own. -/
theorem ofScheme_scheme : SchemeKind.ofScheme Redirect.scheme = .general := by decide

/-- The root of a host that is written in plain characters has this host. -/
theorem parse_root (plain : ∀ char ∈ host.toList, UrlHost.isPlain char = true) :
    parse (Redirect.scheme ++ "://" ++ host ++ "/") =
      .ok ⟨Redirect.scheme, some (.name host), "/", none⟩ := by
  have inner := fun char member => isInner_of_isPlain (plain char member)
  have same := parseOpaque_of_isPlain plain
  rw [String.ofList_toList] at same
  rw [parse_base fun char member => (inner char member).1, parseAuthority]
  dsimp only
  rw [ofScheme_scheme]
  refine bind_eq_ok_iff.mpr ⟨_, skipUser_of_isInner fun char member => (inner char member).1, ?_⟩
  dsimp only
  rw [splitHost_of_isInner inner (.inr rfl), if_neg (by simp), if_neg (by decide)]
  refine bind_eq_ok_iff.mpr ⟨_, same, bind_eq_ok_iff.mpr ⟨['/'], rfl, ?_⟩⟩
  have path : pathText (addSegments [] (segments .general [])) = "/" :=
    String.toList_injective (pathText_of_isPathChar nofun)
  exact congrArg (fun path => Except.ok (Url.mk Redirect.scheme (some (.name host)) path none)) path

/-- Behind the digits that follow a colon there is more, if there is another colon. -/
theorem exists_behind_digits (colon : ':' ∈ front) : ∃ first ∈ front,
    ((front ++ ['/']).drop ((front ++ ['/']).takeWhile Char.isDigit).length).head? =
      some first := by
  induction front with
  | nil => cases colon
  | cons first front ih =>
    by_cases digit : first.isDigit = true
    · have later : ':' ∈ front := by
        obtain rfl | later := List.mem_cons.mp colon
        · cases digit
        · exact later
      obtain ⟨next, among, behind⟩ := ih later
      refine ⟨next, List.mem_cons_of_mem first among, ?_⟩
      rw [List.cons_append, List.takeWhile_cons_of_pos digit, List.length_cons, List.drop_succ_cons]
      exact behind
    · refine ⟨first, List.mem_cons_self, ?_⟩
      rw [List.cons_append, List.takeWhile_cons_of_neg digit]
      rfl

/-- Groups with a colon between them are no port. -/
theorem skipPort_of_colon (groups : ∀ char ∈ front, char ∈ Ipv6.groupChars) (colon : ':' ∈ front) :
    skipPort (':' :: (front ++ ['/'])) = .error .invalidPort := by
  obtain ⟨first, among, behind⟩ := exists_behind_digits colon
  have goesOn := (isInner_of_groupChars first (groups first among)).2.2
  rw [skipPort, behind, Option.all_some, goesOn]
  split <;> rfl

/-- A host that is written with colons, as an address of eight groups is, makes no root. -/
theorem parse_root_of_colons (groups : ∀ char ∈ host.toList, char ∈ Ipv6.groupChars)
    (colons : 2 ≤ host.toList.count ':') :
    ∃ fault, parse (Redirect.scheme ++ "://" ++ host ++ "/") = .error fault ∧
      (fault = .emptyHost ∨ fault = .invalidPort) := by
  have inner := fun char member => (isInner_of_groupChars char (groups char member)).1
  obtain ⟨front, rest, cut, noColon⟩ := List.eq_append_cons_of_mem
    (List.count_pos_iff.mp (Nat.lt_of_lt_of_le Nat.zero_lt_two colons))
  rw [cut] at groups colons
  rw [List.count_append, List.count_eq_zero.mpr noColon, List.count_cons_self] at colons
  have colon : ':' ∈ rest := List.count_pos_iff.mp (by omega)
  have plain : ∀ char ∈ front, UrlHost.isPlain char = true := by
    intro char member
    refine (isInner_of_groupChars char (groups char (List.mem_append_left _ member))).2.1 ?_
    rintro rfl
    exact noColon member
  have split : splitHost .general false (host.toList ++ ['/']) =
      (front, ':' :: (rest ++ ['/'])) := by
    rw [cut, List.append_assoc, List.cons_append]
    exact splitHost_of_isInner (fun char member => isInner_of_isPlain (plain char member))
      (.inl rfl) _
  have port : skipPort (':' :: (rest ++ ['/'])) = .error .invalidPort := by
    refine skipPort_of_colon (fun char member => groups char ?_) colon
    exact List.mem_append_right front (List.mem_cons_of_mem ':' member)
  rw [parse_base inner, parseAuthority]
  dsimp only
  rw [ofScheme_scheme]
  cases front with
  | nil =>
    refine ⟨.emptyHost, ?_, .inl rfl⟩
    refine bind_eq_error_iff.mpr (.inr ⟨_, skipUser_of_isInner inner, ?_⟩)
    dsimp only
    rw [split, if_pos ⟨rfl, .inr (.inr rfl)⟩]
    rfl
  | cons first front =>
    refine ⟨.invalidPort, ?_, .inr rfl⟩
    refine bind_eq_error_iff.mpr (.inr ⟨_, skipUser_of_isInner inner, ?_⟩)
    dsimp only
    rw [split, if_neg (by simp), if_neg (by decide)]
    refine bind_eq_error_iff.mpr (.inr ⟨_, parseOpaque_of_isPlain plain, ?_⟩)
    exact bind_eq_error_iff.mpr (.inl port)

/-! ## Locations on the host -/

/-- A location on the host that is asked. -/
def IsLocal (location : String) : Prop :=
  ∃ rest, location.toList = '/' :: rest ∧ rest.head? ≠ some '/' ∧
    ∀ char ∈ rest, isPathChar char = true

section Local

variable {location : String} (isLocal : IsLocal location)
include isLocal

/-- There is nothing to clean in a location on the host. -/
theorem clean_of_isLocal : clean location = location.toList := by
  obtain ⟨rest, starts, -, inPath⟩ := isLocal
  refine clean_of_visible fun char member => ?_
  rw [starts] at member
  obtain rfl | later := List.mem_cons.mp member
  · decide
  · exact (isPathChar_cases (inPath char later)).1

/-- A location on the host is no URL by itself. -/
theorem parse_of_isLocal : parse location = .error .noScheme := by
  rw [parse, clean_of_isLocal isLocal]
  obtain ⟨rest, starts, -⟩ := isLocal
  rw [starts]
  rfl

/-- Seen from a URL with a host it is the path of the URL that it stands for. -/
theorem resolve_of_isLocal {base : Url} (general : SchemeKind.ofScheme base.scheme = .general) :
    resolve base location = .ok { base with path := location, query := none } := by
  have cleaned := clean_of_isLocal isLocal
  obtain ⟨rest, starts, once, inPath⟩ := isLocal
  have path : pathText (addSegments [] (segments .general rest)) = location :=
    String.toList_injective ((pathText_of_isPathChar inPath).trans starts.symm)
  have noSlash : rest.head?.any (fun char => char == '/' || char == '\\') = false := by
    cases rest with
    | nil => rfl
    | cons first rest =>
      have here := (isPathChar_cases (inPath first List.mem_cons_self)).2.2.1
      have apart : first ≠ '/' := fun same => once (congrArg some same)
      rw [List.head?_cons, Option.any_some, beq_false_of_ne apart, beq_false_of_ne here]
      rfl
  have whole : splitPath rest = (rest, []) := by
    have all : rest.takeWhile (fun char => char != '?' && char != '#') = rest :=
      List.takeWhile_eq_self_iff.mpr fun char member => (isPathChar_cases (inPath char member)).2.1
    unfold splitPath
    dsimp only
    rw [all, List.drop_length]
  unfold resolve
  dsimp only
  rw [cleaned, starts, general]
  split
  · next same => cases same
  · next same => cases same
  · next same => cases same
  · next same =>
    cases same
    rw [noSlash, if_neg (by decide), if_pos (by decide), whole]
    dsimp only
    rw [path]
    rfl

end Local

end Url

namespace Redirect

variable {response absolute relative : Response} {location path host asked : String} {url : Url}
  {first : RedirectTarget}

/-- A response that names a location, and not both a host and a path. -/
def Names (response : Response) (location : String) : Prop :=
  response.header? "location" = some location ∧
    (response.header? "host" = none ∨ response.header? "path" = none)

/-- A response that names a location leads there. -/
theorem target_of_names (names : Names response location) (asked : String) :
    target response asked = ofLocation location asked := by
  obtain ⟨named, elsewhere⟩ := names
  unfold target
  split
  · next hasHost hasPath => simp [hasHost, hasPath] at elsewhere
  · rw [named]

/-- The host to which a URL leads. -/
theorem exists_host_of_ofLocation (isAbsolute : Url.parse location = .ok url)
    (leads : ofLocation location asked = .ok first) :
    ∃ host, url.host = some host ∧ first.host = host.text ∧ first.host ≠ "" := by
  have located : locate location asked = .ok url := by
    rw [locate, isAbsolute]
  unfold ofLocation at leads
  rw [located] at leads
  dsimp only at leads
  split at leads
  · next target found =>
    cases leads
    rw [ofUrl?, Option.bind_eq_bind, Option.bind_eq_some_iff] at found
    obtain ⟨host, has, found⟩ := found
    dsimp only at found
    split at found
    · cases found
    · next named =>
      cases found
      exact ⟨host, has, rfl, fun empty => named (String.isEmpty_iff.mpr empty)⟩
  · cases leads

/-- A location on the host is resolved against the root of the host. -/
theorem locate_of_isLocal (isLocal : Url.IsLocal path) (host : String) :
    locate path host =
      Url.parse (scheme ++ "://" ++ host ++ "/") >>= fun base => Url.resolve base path := by
  rw [locate, Url.parse_of_isLocal isLocal]

/-- On a named host it leads to the same host. -/
theorem ofLocation_of_isPlain (isLocal : Url.IsLocal path) (named : host ≠ "")
    (plain : ∀ char ∈ host.toList, UrlHost.isPlain char = true) :
    ofLocation path host = .ok ⟨host, path⟩ := by
  have located : locate path host = .ok ⟨scheme, some (.name host), path, none⟩ := by
    rw [locate_of_isLocal isLocal]
    refine bind_eq_ok_iff.mpr ⟨_, Url.parse_root plain, ?_⟩
    exact Url.resolve_of_isLocal isLocal Url.ofScheme_scheme
  have hasPath : path.isEmpty = false := by
    obtain ⟨rest, starts, -⟩ := isLocal
    refine Bool.eq_false_iff.mpr fun empty => ?_
    rw [String.isEmpty_iff.mp empty] at starts
    cases starts
  have found : ofUrl? ⟨scheme, some (.name host), path, none⟩ = some ⟨host, path⟩ := by
    simp [ofUrl?, UrlHost.text, named, rooted, hasPath]
  rw [ofLocation, located]
  dsimp only
  rw [found]

/-- On a host that is an address with colons it leads nowhere. -/
theorem ofLocation_of_v6 (isLocal : Url.IsLocal path) (address : Ipv6) :
    ∃ fault, ofLocation path address.text = .error (.invalidLocation path (.malformed fault)) ∧
      (fault = .emptyHost ∨ fault = .invalidPort) := by
  obtain ⟨fault, fails, which⟩ := Url.parse_root_of_colons
    (fun _ => Ipv6.groupChars_of_mem_text) address.two_le_count_text
  refine ⟨fault, ?_, which⟩
  have located : locate path address.text = .error fault := by
    rw [locate_of_isLocal isLocal]
    exact bind_eq_error_iff.mpr (.inl fails)
  rw [ofLocation, located]

end Redirect

namespace Client

variable {World Link Stream : Type} {client : Client World Link Stream}
  {hop next : Hop World Link Stream} {response : Response} {after : Situation World Link}
  {target : RedirectTarget}

/-- The next hop is on the host that the redirect leads to. -/
theorem host_of_next? (answered : client.roundTrip hop.request hop.before = .ok response after)
    (leads : Redirect.target response hop.request.host = .ok target)
    (follows : client.next? hop = some next) : next.request.host = target.host := by
  obtain ⟨answer, there, found, same, -, led, -, -, made⟩ := next?_eq_some_iff.mp follows
  cases answered.symm.trans same
  cases leads.symm.trans led
  rw [made, Redirect.host_followUp]

/-- A redirect that leads to the same host is followed over the link that there is. -/
theorem next?_of_same (answered : client.roundTrip hop.request hop.before = .ok response after)
    (redirects : response.isRedirect = true)
    (leads : Redirect.target response hop.request.host = .ok target)
    (stays : target.host = hop.request.host) :
    client.next? hop = some ⟨[], Redirect.followUp hop.request response.status target, after⟩ := by
  have moves : client.moveOn hop.request.host target.host after = .ok () after := by
    rw [moveOn, if_pos stays]
    rfl
  rw [next?_of_moves answered redirects leads moves, moving, if_pos stays]

/-- A redirect whose location is a URL leads to the host of this URL, and one whose location is
only a path, asked of that host, leads to the path on the same host: the call goes on over the
link that there is. But if the host is an address of eight groups, the second location
makes no URL, and the call ends there. -/
theorem relative_redirect {absolute relative : Response} {location path asked : String} {url : Url}
    {first : RedirectTarget} (names : Redirect.Names absolute location)
    (isAbsolute : Url.parse location = .ok url)
    (leads : Redirect.target absolute asked = .ok first)
    (again : Redirect.Names relative path) (isLocal : Url.IsLocal path) :
    (url.host.any UrlHost.isV6 = false →
      Redirect.target relative first.host = .ok ⟨first.host, path⟩ ∧
      ∀ {World Link Stream : Type} (client : Client World Link Stream)
        (hop next : Hop World Link Stream) (there after : Situation World Link),
        hop.request.host = asked →
        client.roundTrip hop.request hop.before = .ok absolute there →
        client.next? hop = some next →
        client.roundTrip next.request next.before = .ok relative after →
        relative.isRedirect = true →
        client.next? next = some ⟨[],
          Redirect.followUp next.request relative.status ⟨first.host, path⟩, after⟩) ∧
    (url.host.any UrlHost.isV6 = true →
      ∃ fault, (fault = .emptyHost ∨ fault = .invalidPort) ∧
      Redirect.target relative first.host =
        .error (.invalidLocation path (.malformed fault)) ∧
      ∀ {World Link Stream : Type} (client : Client World Link Stream)
        (hop next : Hop World Link Stream) (there after : Situation World Link) (left : Nat),
        hop.request.host = asked →
        client.roundTrip hop.request hop.before = .ok absolute there →
        client.next? hop = some next →
        client.roundTrip next.request next.before = .ok relative after →
        relative.isRedirect = true →
        client.follow (left + 1) next.request next.before =
          .error (.redirect (.invalidLocation path (.malformed fault))) after) := by
  have located := leads
  rw [Redirect.target_of_names names] at located
  obtain ⟨host, has, same, named⟩ := Redirect.exists_host_of_ofLocation isAbsolute located
  rw [has, Option.any_some]
  constructor
  · intro apart
    have stays : Redirect.target relative first.host = .ok ⟨first.host, path⟩ := by
      rw [Redirect.target_of_names again]
      refine Redirect.ofLocation_of_isPlain isLocal named fun char member => ?_
      rw [same] at member
      exact Url.isPlain_of_parse isAbsolute has apart member
    refine ⟨stays, ?_⟩
    rintro World Link Stream client hop next there after rfl answered follows answeredThen redirects
    have here := host_of_next? answered leads follows
    have leadsThen : Redirect.target relative next.request.host = .ok ⟨first.host, path⟩ := by
      rw [here]
      exact stays
    exact next?_of_same answeredThen redirects leadsThen here.symm
  · intro groups
    cases host with
    | name text | v4 address => cases groups
    | v6 address =>
      obtain ⟨fault, fails, which⟩ := Redirect.ofLocation_of_v6 isLocal address
      have misleads : Redirect.target relative first.host =
          .error (.invalidLocation path (.malformed fault)) := by
        rw [Redirect.target_of_names again, same]
        exact fails
      refine ⟨fault, which, misleads, ?_⟩
      rintro World Link Stream client hop next there after left rfl answered follows answeredThen
        redirects
      have here := host_of_next? answered leads follows
      have misleadsThen : Redirect.target relative next.request.host =
          .error (.invalidLocation path (.malformed fault)) := by
        rw [here]
        exact misleads
      exact follow_of_misled answeredThen redirects misleadsThen left

/-- A redirect to a name beyond ASCII and another one on that host. -/
theorem relative_redirect_sample :
    let absolute := Response.new 302 [] (.ofList [("location", "http://Bücher.example:8080/far")])
    let relative := Response.new 307 [] (.ofList [("location", "/near/by")])
    let first : RedirectTarget := ⟨"xn--bcher-kva.example", "/far"⟩
    Redirect.Names absolute "http://Bücher.example:8080/far" ∧
      Url.parse "http://Bücher.example:8080/far" =
        .ok ⟨"http", some (.name first.host), "/far", none⟩ ∧
      Redirect.target absolute "a" = .ok first ∧
      Redirect.Names relative "/near/by" ∧ Url.IsLocal "/near/by" ∧
      Redirect.target relative first.host = .ok ⟨first.host, "/near/by"⟩ := by
  intro absolute relative first
  have names : Redirect.Names absolute "http://Bücher.example:8080/far" :=
    ⟨by decide +kernel, .inl (by decide +kernel)⟩
  have parses : Url.parse "http://Bücher.example:8080/far" =
      .ok ⟨"http", some (.name first.host), "/far", none⟩ := by
    decide +kernel
  have leads : Redirect.target absolute "a" = .ok first := by decide +kernel
  have again : Redirect.Names relative "/near/by" := ⟨by decide +kernel, .inl (by decide +kernel)⟩
  have isLocal : Url.IsLocal "/near/by" :=
    ⟨"near/by".toList, by decide, by decide, List.all_eq_true.mp (by decide)⟩
  exact ⟨names, parses, leads, again, isLocal,
    ((relative_redirect names parses leads again isLocal).1 rfl).1⟩

/-- A redirect to an address of eight groups leads there, and a path named from there leads
nowhere: the host is read as an empty one with a port. -/
theorem relative_redirect_lost :
    Redirect.target (.new 302 [] (.ofList [("location", "http://[::1]:8080/v6")])) "a.test" =
        .ok ⟨"::1", "/v6"⟩ ∧
      Redirect.target (.new 302 [] (.ofList [("location", "/x")])) "::1" =
        .error (.invalidLocation "/x" (.malformed .emptyHost)) := by
  decide +kernel

end Client

end CompactHttp
