import CompactHttp.Bytes

/-! # Tables of well-known headers

Common headers travel as one byte. A table row gives a byte either to a header with its
value or to a name, whose value then follows. Requests and responses have a table
each; a byte means nothing outside its table, and zero stands in neither, since it
marks a header that is written out.
-/

namespace CompactHttp

/-- What one byte stands for: a name, and a value if it fixes one. -/
structure HeaderRow where
  id : UInt8
  name : String
  value : Option String
deriving DecidableEq, Repr

/-- The rows of one direction. -/
abbrev HeaderTable := List HeaderRow

namespace HeaderTable

/-- The row of a byte. -/
def row? (table : HeaderTable) (id : UInt8) : Option HeaderRow :=
  table.find? fun row => row.id == id

/-- The byte for a header with this value. -/
def fullId? (table : HeaderTable) (name value : String) : Option UInt8 :=
  (table.find? fun row => row.name == name && row.value == some value).map HeaderRow.id

/-- The byte for a header of this name, its value to follow. -/
def namedId? (table : HeaderTable) (name : String) : Option UInt8 :=
  (table.find? fun row => row.name == name && row.value == none).map HeaderRow.id

/-- The marker of a header that is written out. -/
def customId : UInt8 := 0x00

/-- A row for a name whose value follows. -/
def named (id : UInt8) (name : String) : HeaderRow := ⟨id, name, none⟩

/-- A row for a name with its value. -/
def full (id : UInt8) (name value : String) : HeaderRow := ⟨id, name, some value⟩

/-- The headers that requests abbreviate. -/
def request : HeaderTable :=
  [named 0x01 "accept",
   named 0x02 "accept-encoding",
   named 0x03 "accept-language",
   named 0x04 "content-type",
   named 0x05 "content-length",
   named 0x06 "authorization",
   named 0x07 "cookie",
   named 0x08 "user-agent",
   named 0x09 "referer",
   named 0x0A "origin",
   named 0x0B "if-none-match",
   named 0x0C "if-modified-since",
   named 0x0D "range",
   named 0x0E "host",
   named 0x0F "cache-control",
   named 0x10 "connection",
   named 0x11 "x-payment",
   named 0x12 "sec-ch-ua",
   named 0x13 "sec-ch-ua-mobile",
   named 0x14 "sec-ch-ua-platform",
   named 0x15 "sec-fetch-site",
   named 0x16 "sec-fetch-mode",
   named 0x17 "sec-fetch-dest",
   named 0x18 "upgrade-insecure-requests",
   named 0x19 "x-requested-with",
   named 0x1A "pragma",
   named 0x1B "priority",
   named 0x1C "dnt",
   named 0x1D "te",
   named 0x1E "x-forwarded-for",
   named 0x1F "x-request-id",
   full 0x40 "accept" "*/*",
   full 0x41 "accept" "application/json",
   full 0x42 "accept" "text/html",
   full 0x43 "accept" "text/html,application/xhtml+xml,application/xml;q=0.9,*/*;q=0.8",
   full 0x44 "accept-encoding" "zstd, br, gzip",
   full 0x45 "accept-encoding" "gzip, deflate, br",
   full 0x46 "accept-encoding" "gzip, deflate, br, zstd",
   full 0x47 "accept-encoding" "gzip",
   full 0x48 "accept-language" "en-US,en;q=0.9",
   full 0x49 "content-type" "application/json",
   full 0x4A "content-type" "application/json; charset=UTF-8",
   full 0x4B "content-type" "application/x-www-form-urlencoded",
   full 0x4C "content-type" "text/plain; charset=UTF-8",
   full 0x4D "cache-control" "no-cache",
   full 0x4E "cache-control" "max-age=0",
   full 0x4F "connection" "keep-alive",
   full 0x50 "sec-ch-ua-mobile" "?0",
   full 0x51 "sec-ch-ua-mobile" "?1",
   full 0x52 "sec-ch-ua-platform" "\"Windows\"",
   full 0x53 "sec-ch-ua-platform" "\"macOS\"",
   full 0x54 "sec-ch-ua-platform" "\"Linux\"",
   full 0x55 "sec-fetch-site" "same-origin",
   full 0x56 "sec-fetch-site" "cross-site",
   full 0x57 "sec-fetch-site" "none",
   full 0x58 "sec-fetch-mode" "cors",
   full 0x59 "sec-fetch-mode" "navigate",
   full 0x5A "sec-fetch-dest" "empty",
   full 0x5B "sec-fetch-dest" "document",
   full 0x5C "upgrade-insecure-requests" "1",
   full 0x5D "x-requested-with" "XMLHttpRequest",
   full 0x5E "pragma" "no-cache",
   full 0x5F "priority" "u=0, i",
   full 0x60 "priority" "u=1, i",
   full 0x61 "dnt" "1",
   full 0x62 "te" "trailers"]

/-- The headers that responses abbreviate. -/
def response : HeaderTable :=
  [named 0x01 "content-type",
   named 0x02 "content-length",
   named 0x03 "cache-control",
   named 0x04 "content-encoding",
   named 0x05 "date",
   named 0x06 "etag",
   named 0x07 "expires",
   named 0x08 "last-modified",
   named 0x09 "access-control-allow-origin",
   named 0x0A "access-control-allow-methods",
   named 0x0B "access-control-allow-headers",
   named 0x0C "set-cookie",
   named 0x0D "location",
   named 0x0E "content-security-policy",
   named 0x0F "x-content-type-options",
   named 0x10 "x-frame-options",
   named 0x11 "vary",
   named 0x12 "x-payment-response",
   named 0x13 "server",
   named 0x14 "strict-transport-security",
   named 0x15 "host",
   named 0x16 "path",
   named 0x17 "retry-after",
   named 0x18 "content-language",
   named 0x19 "content-disposition",
   named 0x1A "age",
   named 0x1B "accept-ranges",
   named 0x1C "link",
   named 0x1D "referrer-policy",
   named 0x1E "x-xss-protection",
   named 0x1F "alt-svc",
   named 0x20 "timing-allow-origin",
   full 0x40 "content-encoding" "gzip",
   full 0x41 "content-encoding" "br",
   full 0x42 "content-encoding" "zstd",
   full 0x43 "content-encoding" "deflate",
   full 0x44 "content-type" "application/json",
   full 0x45 "content-type" "application/json; charset=utf-8",
   full 0x46 "content-type" "text/html; charset=utf-8",
   full 0x47 "content-type" "text/plain; charset=utf-8",
   full 0x48 "cache-control" "no-cache",
   full 0x49 "cache-control" "no-store",
   full 0x4A "cache-control" "max-age=0",
   full 0x4B "cache-control" "private",
   full 0x4C "cache-control" "public, max-age=31536000",
   full 0x4D "x-content-type-options" "nosniff",
   full 0x4E "x-frame-options" "DENY",
   full 0x4F "x-frame-options" "SAMEORIGIN",
   full 0x50 "access-control-allow-origin" "*",
   full 0x51 "vary" "Accept-Encoding",
   full 0x52 "vary" "Origin",
   full 0x53 "accept-ranges" "bytes",
   full 0x54 "strict-transport-security" "max-age=31536000; includeSubDomains",
   full 0x55 "referrer-policy" "strict-origin-when-cross-origin",
   full 0x56 "referrer-policy" "no-referrer",
   full 0x57 "x-xss-protection" "0",
   full 0x58 "x-xss-protection" "1; mode=block",
   full 0x59 "timing-allow-origin" "*"]

end HeaderTable

end CompactHttp
