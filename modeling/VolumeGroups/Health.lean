import VolumeGroups.Uri

/-! Questions about how an operator is doing, and the answers to them. -/

namespace VolumeGroups

/-- A question, by the word for what it wants and the address it wants it from. -/
structure HealthRequest where
  method : String
  uri : Uri
  deriving DecidableEq

/-- An answer. -/
structure HealthAnswer where
  code : Nat
  /-- The words that would have been understood, if the one in the question was not. -/
  allowed : Option String := none
  body : String := ""
  deriving DecidableEq

namespace HealthRequest

/-- A character that a word for what a question wants may hold. -/
def isMethodChar (char : Char) : Bool :=
  char.isAlphanum
    || ['!', '#', '$', '%', '&', '\'', '*', '+', '-', '.', '^', '_', '\x60', '|', '~'].contains char

/-- The question that a word and an address ask, if both are well-formed. -/
def ofTexts? (method address : String) : Option HealthRequest := do
  guard (!method.isEmpty && method.toList.all isMethodChar)
  let uri ← Uri.parse? address
  return { method, uri }

/-- What there is to tell at a path, given whether the operator is ready. -/
def answerAt? (ready : Bool) (path : String) : Option HealthAnswer :=
  if path = "/healthz" then some { code := 200, body := "OK" }
  else if path = "/readyz" then
    some (if ready then { code := 200, body := "Ready" } else { code := 503, body := "Not ready" })
  else none

/-- The answer to a question, given whether the operator is ready. -/
def answer (request : HealthRequest) (ready : Bool) : HealthAnswer :=
  match answerAt? ready request.uri.path with
  | none => { code := 404 }
  | some answer =>
    if request.method = "GET" then answer
    -- Whoever asks for the head only gets everything but the body.
    else if request.method = "HEAD" then { answer with body := "" }
    else { code := 405, allowed := some "GET,HEAD" }

end HealthRequest

end VolumeGroups
