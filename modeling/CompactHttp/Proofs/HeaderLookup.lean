import CompactHttp.Proofs.Relaying

/-! # Looking up the headers of what has been read

A header is looked up under exactly its name first, and then under any name that differs from it in
the case of ASCII letters only. The second step goes through the headers in whatever order they are
in, so in general the answer depends on that order. It does not for a message that has been read:
all names are in small letters there, so there is at most one name to find, which is the name that
was asked for in small letters of ASCII (`header_lookup_of_read`).
-/

namespace CompactHttp

namespace Headers

variable {order headers : Headers}

/-- How headers that are in some order answer: with what is stored under the name in small letters
of ASCII. So the case of ASCII letters does not matter, and for a name that has no capitals the
answer is what is stored under exactly this name. -/
structure Answers (order headers : Headers) (lookup : String → Option String) : Prop where
  stored : ∀ name, lookup name = headers.get? name.toLower
  alike : ∀ name other, other.toLower = name.toLower → lookup other = lookup name
  direct : ∀ name, name.toLower = name → order.get? name = lookup name

/-- Of headers in small letters a scan finds only the name in small letters of ASCII. -/
theorem SmallNames.scan_eq (small : headers.SmallNames) (name : String) :
    (headers.entries.find? fun entry => sameName entry.1 name).map Prod.snd =
      headers.get? name.toLower := by
  have matching {other value : String} (member : (other, value) ∈ headers.entries) :
      sameName other name = true ↔ other = name.toLower := by
    rw [sameName, beq_iff_eq, toLower_of_lowercase (small other (List.mem_map_of_mem member))]
  cases found : headers.entries.find? fun entry => sameName entry.1 name with
  | some entry =>
    have member := List.mem_of_find?_eq_some found
    have same : sameName entry.1 name = true := by simpa using List.find?_some found
    rw [← (matching member).mp same, (get?_eq_some_iff headers entry.1 entry.2).mpr member]
    rfl
  | none =>
    refine (Option.eq_none_iff_forall_ne_some.mpr fun value stored => ?_).symm
    have member := (get?_eq_some_iff headers _ value).mp stored
    exact List.find?_eq_none.mp found _ member ((matching member).mpr rfl)

/-- Among names in small letters a header is found by the small letters of its name. -/
theorem SmallNames.find?_eq (small : headers.SmallNames) (name : String) :
    headers.find? name = headers.get? name.toLower := by
  unfold find?
  cases exact : headers.get? name with
  | some value =>
    have member := (get?_eq_some_iff headers name value).mp exact
    rw [toLower_of_lowercase (small name (List.mem_map_of_mem member)), exact]
  | none => exact small.scan_eq name

/-- Headers in small letters answer alike in every order. -/
theorem SmallNames.answers (small : headers.SmallNames) (reordered : order.Reordering headers) :
    order.Answers headers order.find? := by
  have stored (name : String) : order.find? name = headers.get? name.toLower := by
    rw [(small.of_reordering reordered).find?_eq, reordering_iff_get?.mp reordered]
  refine ⟨stored, fun name other same => ?_, fun name small => ?_⟩
  · rw [stored, stored, same]
  · rw [stored, small, reordering_iff_get?.mp reordered]

end Headers

/-- The headers of a message that has been read are looked up whatever the case of ASCII letters,
and whatever the order they are gone through. -/
theorem header_lookup_of_read (data : Bytes) :
    (∀ request, Request.decode data = .ok request →
      ∀ order : Headers, order.Reordering request.headers →
        order.Answers request.headers { request with headers := order }.header?) ∧
    ∀ response, Response.decode data = .ok response →
      ∀ order : Headers, order.Reordering response.headers →
        order.Answers response.headers { response with headers := order }.header? := by
  constructor
  · intro request read order reordered
    exact (Request.normal_of_decode read).headers.answers reordered
  · intro response read order reordered
    exact (Response.smallNames_of_decode read).answers reordered

/-- Headers that are read have their names in small letters, and are found by any spelling in ASCII.
-/
theorem header_lookup_of_read_sample :
    -- The name is written out in capitals, and the headers are gone through backwards.
    Request.decode [0x48, 1, 104, 0, 15, 0, 6, 65, 67, 67, 69, 80, 84, 1, 97, 0, 1, 88, 1, 98, 0] =
      .ok ⟨.post, "h", "/", 1, .ofList [("accept", "a"), ("x", "b")], []⟩ ∧
    Request.header? ⟨.post, "h", "/", 1, .ofList [("x", "b"), ("accept", "a")], []⟩ "aCCept" =
      some "a" ∧
    Request.header? ⟨.post, "h", "/", 1, .ofList [("x", "b"), ("accept", "a")], []⟩ "É" = none := by
  have read : Request.decode [0x48, 1, 104, 0, 15, 0, 6, 65, 67, 67, 69, 80, 84, 1, 97, 0, 1, 88, 1,
      98, 0] = .ok ⟨.post, "h", "/", 1, .ofList [("accept", "a"), ("x", "b")], []⟩ := by
    decide +kernel
  have swapped : Headers.Reordering (.ofList [("x", "b"), ("accept", "a")])
      (.ofList [("accept", "a"), ("x", "b")]) := by
    unfold Headers.Reordering
    decide +kernel
  have answers := (header_lookup_of_read _).1 _ read _ swapped
  refine ⟨read, (answers.stored "aCCept").trans ?_, (answers.stored "É").trans ?_⟩
  · decide +kernel
  · decide +kernel

end CompactHttp
