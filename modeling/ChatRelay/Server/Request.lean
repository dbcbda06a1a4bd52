import ChatRelay.ChatRequest
import ChatRelay.Json.Reader
import ChatRelay.Text.Utf8
import ChatRelay.Url.Target

/-!
# Requests over HTTP

A request is a method, a target, headers and the bytes of a body. The body is read before anything
else is decided: its media type must be one that the service reads, its length must be the one that
is announced and within the limit, and a JSON text must be one and must not tamper with prototypes.
A request whose body cannot be read is refused with a status and nothing else.
-/

namespace ChatRelay.Server

/-- A request. The names of its headers are in lower case; of two headers of one name the last
counts. -/
structure HttpRequest where
  method : Text
  target : Text
  headers : List (Text × Text)
  body : List UInt8

namespace HttpRequest

/-- A request with its method in upper case, and with a media type for a body that comes without. -/
def ofParts (method target : Text) (headers : List (Text × Text)) (body : Option (List UInt8)) :
    HttpRequest where
  method := method.toUpperAscii
  target := target
  headers :=
    (if body.isSome then [(Text.ofString "content-type", Text.ofString "application/json")] else []) ++
      headers.map fun (name, value) => (name.toLowerAscii, value)
  body := body.getD []

/-- The value of a header. -/
def header? (r : HttpRequest) (name : Text) : Option Text := r.headers.reverse.lookup name

end HttpRequest

mutual

/-- Whether a body names a prototype somewhere, as a key of its own or inside of a constructor; such
bodies are refused unread. -/
def namesPrototype : Json → Bool
  | .arr items => itemsNamePrototype items
  | .obj members => membersNamePrototype members
  | _ => false

/-- The same for a list of items. -/
def itemsNamePrototype : List Json → Bool
  | [] => false
  | x :: xs => namesPrototype x || itemsNamePrototype xs

/-- The same for the members of an object. -/
def membersNamePrototype : Json.Members → Bool
  | [] => false
  | (key, value) :: ms =>
    key = "__proto__" || (key = "constructor" && (value.get? "prototype").isSome) ||
      namesPrototype value || membersNamePrototype ms

end

/-- Why a request is refused before it reaches a route. -/
inductive Refusal where
  | badTarget
  | unknownRoute
  | malformedBody
  | tooLarge
  | mediaType
  deriving DecidableEq

/-- The status of a refusal. -/
def Refusal.status : Refusal → Nat
  | .badTarget => 400
  | .unknownRoute => 404
  | .malformedBody => 400
  | .tooLarge => 413
  | .mediaType => 415

/-- The most bytes that a body may have. -/
def bodyLimit : Nat := 1048576

/-- Whether a header names a media type, parameters behind it left aside. -/
def isMediaType (type header : Text) : Bool :=
  match Text.after? type header.toLowerAscii with
  | none => false
  | some [] => true
  | some (u :: _) => u = Text.unit ';' || u = 32 || u = 9

/-- The bytes of a body whose length is as announced. A length that is no numeral announces none. -/
def wholeBody (r : HttpRequest) : Except Refusal (List UInt8) :=
  let received := Number.ofNat r.body.length
  let announced := (r.header? "content-length").bind Number.ofNumeral?
  if (announced.map (Number.ofNat bodyLimit).isBelow).getD false || bodyLimit < r.body.length then
    .error .tooLarge
  else if (announced.map received.sameValue).getD true then .ok r.body
  else .error .malformedBody

/-- The value of a JSON body. -/
def jsonBody (bytes : List UInt8) : Except Refusal Json :=
  match Json.parse? (Utf8.decode bytes) with
  | some v => if namesPrototype v then .error .malformedBody else .ok v
  | none => .error .malformedBody

/-- What a request brings, if it brings anything. -/
def bodyOf (r : HttpRequest) : Except Refusal (Option Json) :=
  match r.header? "content-type" with
  | none =>
    let length := r.header? "content-length"
    if (length.isNone || length = some "0") && (r.header? "transfer-encoding").isNone then .ok none
    else .error .mediaType
  | some type =>
    if isMediaType "application/json" type then ((wholeBody r).bind jsonBody).map some
    else if isMediaType "text/plain" type then
      (wholeBody r).map fun bytes => some (.str (Utf8.decode bytes))
    else .error .mediaType

/-- The methods whose requests may bring something. -/
def bodyMethods : List Text := ["DELETE", "OPTIONS", "PATCH", "PUT", "POST"]

/-- What a request brings; with most methods nothing that is looked at. -/
def intake (r : HttpRequest) : Except Refusal (Option Json) :=
  if bodyMethods.contains r.method then bodyOf r else .ok none

/-- Why a request to no route is refused: because of its body if that is of a known type and cannot
be read, and else because there is no such route. -/
def refusalOfUnknown (r : HttpRequest) : Refusal :=
  match intake r with
  | .error .mediaType => .unknownRoute
  | .error refusal => refusal
  | .ok _ => .unknownRoute

end ChatRelay.Server
