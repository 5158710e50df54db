import PartCache.Http.Url
import PartCache.Http.Status
import PartCache.Range
import PartCache.Zone.Upstream

/-!
# An upstream origin over HTTP

An HTTP upstream asks an origin server for byte ranges of objects with `Range`
requests.  The object's URL is the base URL, without trailing slashes, followed by
the object's path, with a slash put between them if the path has none.

A reply is taken as follows:

* `206 Partial Content` must carry a readable `Content-Range` header that starts
  at the first byte asked for and ends at the last one, or at the object's last
  byte when the range runs past it; its body is then the answer as it is.
* `200 OK` is the whole object: the range is cut out of it, and a range starting
  at or past its end is refused.
* Any other status is refused with its code and reason.

A range whose ends are out of order is refused before anything is sent.  How a
request travels is a parameter: a transport either brings a reply or fails, and
then the error names the URL in its normal form.  A user name and password in the
URL go into the request's credentials, so the URL sent and named has none.
-/

namespace PartCache.Http

set_option autoImplicit false

/-- A request as it goes out: where to, and its `Range` header. -/
structure Request where
  url : Url
  range : String

/-- A reply: its status, its headers with lowercase names, and its body. -/
structure Response where
  status : Nat
  headers : List (String × Bytes)
  body : Bytes

/-- Why a request brought no reply. -/
inductive SendFailure where
  /-- The server could not be reached. -/
  | unreachable

/-- How requests travel: each one brings a reply or fails to be sent. -/
abbrev Transport := Request → Except SendFailure Response

namespace Transport

/-- A network from which no server can be reached. -/
def unreachable : Transport := fun _ => .error .unreachable

/-- A server that answers every request with the same reply. -/
def replying (reply : Response) : Transport := fun _ => .ok reply

end Transport

/-- An upstream origin reached over HTTP range requests. -/
structure HttpUpstream where
  /-- The base URL, without trailing slashes. -/
  base : String

namespace HttpUpstream

/-- An upstream for a base URL. -/
def new (baseUrl : String) : HttpUpstream :=
  ⟨String.ofList (baseUrl.toList.reverse.dropWhile (· == '/')).reverse⟩

/-- The URL of an object. -/
def urlFor (u : HttpUpstream) (path : String) : String :=
  if path.startsWith "/" then u.base ++ path else u.base ++ "/" ++ path

/-- A header value as text: visible ASCII and tabs, surrounding blanks dropped. -/
def headerText? (v : Bytes) : Option String :=
  if v.all fun b => (32 ≤ b && b < 127) || b == 9 then
    let blank := fun (c : Char) => c == ' ' || c == '\t'
    let cs := (v.map fun b => Char.ofNat b.toNat).dropWhile blank
    some (String.ofList (cs.reverse.dropWhile blank).reverse)
  else none

/-- The value of a reply's first `Content-Range` header as text, when it is one. -/
def contentRange? (reply : Response) : Option String :=
  (reply.headers.find? (·.1 == "content-range")).bind (headerText? ·.2)

/-- Checks that a partial reply covers the range asked for, the end possibly cut to the
object's last byte. -/
def checkContentRange (header : String) (r : ByteRange) : Except CacheError Unit := do
  let c ← ContentRange.ofHeader header
  let receivedEnd := c.start + c.length - 1
  let clampedEnd := min r.last (c.objectSize - 1)
  if c.start != r.first || receivedEnd != clampedEnd then
    throw (.upstreamFetch ("Content-Range mismatch: expected " ++ Decimal.text r.first.toNat ++
      "-" ++ Decimal.text clampedEnd.toNat ++ ", got " ++ header))

/-- What a reply gives for a range of the object at `url`. -/
def accept (url : String) (r : ByteRange) (reply : Response) : Except CacheError Bytes :=
  if reply.status == 206 then
    match contentRange? reply with
    | none => .error (.upstreamFetch "missing Content-Range header in 206 response")
    | some h => do
      checkContentRange h r
      pure reply.body
  else if reply.status == 200 then
    let len := reply.body.length
    if r.first.toNat ≥ len then
      .error (.upstreamFetch ("range start " ++ Decimal.text r.first.toNat ++
        " beyond object size " ++ Decimal.text len))
    else .ok (reply.body.slice r.first.toNat r.last.toNat)
  else .error (.upstreamFetch ("unexpected status " ++ statusText reply.status ++ " for " ++ url))

/-- Fetches bytes `start..=stop` of the object at `path`: the request the server received,
if any, and the answer. -/
def fetchRange (send : Transport) (u : HttpUpstream) (path : String) (start stop : UInt64) :
    Option Request × Except CacheError Bytes :=
  match ByteRange.make start stop with
  | .error e => (none, .error e)
  | .ok r =>
    let url := u.urlFor path
    match Url.parse url with
    | none => (none, .error (.upstreamFetch "request failed: builder error"))
    | some written =>
      let target := written.withoutCredentials
      let request : Request := ⟨target, r.header⟩
      match send request with
      | .error .unreachable =>
        (none, .error (.upstreamFetch
          ("request failed: error sending request for url (" ++ target.text ++ ")")))
      | .ok reply => (some request, accept url r reply)

/-- The upstream a zone uses. -/
def toUpstream (send : Transport) (u : HttpUpstream) : Upstream :=
  ⟨fun path start stop => (fetchRange send u path start stop).2⟩

end HttpUpstream

end PartCache.Http
