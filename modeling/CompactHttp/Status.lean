/-! # Status codes

A response carries its status in six bits: the position of the code in a table
ordered by how often codes occur. A code outside the table is sent as 500, and a
position past its end is read as 500, so both directions are total.
-/

namespace CompactHttp

namespace Status

/-- The codes that have a compact form, by position. -/
def table : List UInt16 :=
  [200, 404, 500, 302, 400, 403, 401, 301, 304, 503, 201, 202, 204, 206, 307, 308, 409, 410,
   412, 413, 414, 415, 422, 429, 502, 504, 505, 100, 101, 102, 103, 205, 207, 208, 226, 300,
   303, 305, 402, 405, 406, 407, 408, 411, 416, 417]

/-- The code that stands in for all codes outside the table. -/
def fallback : UInt16 := 500

/-- The compact form of the fallback code. -/
def fallbackCompact : UInt8 := 2

/-- The compact form of a code. -/
def toCompact (code : UInt16) : UInt8 :=
  match table.idxOf? code with
  | some position => UInt8.ofNat position
  | none => fallbackCompact

/-- The code a compact form stands for. -/
def ofCompact (compact : UInt8) : UInt16 := table[compact.toNat]?.getD fallback

/-- Whether a code has a compact form of its own. -/
def isCompact (code : UInt16) : Bool := table.contains code

/-- The words that go with a code. -/
def reason : UInt16 → String
  | 200 => "OK"
  | 201 => "Created"
  | 202 => "Accepted"
  | 204 => "No Content"
  | 301 => "Moved Permanently"
  | 302 => "Found"
  | 304 => "Not Modified"
  | 307 => "Temporary Redirect"
  | 308 => "Permanent Redirect"
  | 400 => "Bad Request"
  | 401 => "Unauthorized"
  | 403 => "Forbidden"
  | 404 => "Not Found"
  | 405 => "Method Not Allowed"
  | 413 => "Payload Too Large"
  | 415 => "Unsupported Media Type"
  | 429 => "Too Many Requests"
  | 500 => "Internal Server Error"
  | 502 => "Bad Gateway"
  | 503 => "Service Unavailable"
  | 504 => "Gateway Timeout"
  | 505 => "QH Version Not Supported"
  | _ => "Unknown"

/-- Codes that send the client on to another target. -/
def isRedirect (code : UInt16) : Bool :=
  code == 300 || code == 301 || code == 302 || code == 307 || code == 308

/-- Redirects after which the request is repeated as it was. -/
def preservesMethod (code : UInt16) : Bool := code == 307 || code == 308

end Status

end CompactHttp
