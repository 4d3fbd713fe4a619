import KubeletCollector.Url.Parts

/-!
The base URL of a server: a text with scheme `http` or `https` and an authority. It is kept as it was
given, less the slashes at its end, so that paths can be appended.
-/

namespace KubeletCollector.Url

inductive HostError where
  | parts (cause : PartsError)
  | refused (text : List Char)
deriving DecidableEq, Repr

def HostError.message : HostError → String
  | .parts cause => cause.message
  | .refused text => "Invalid cluster host URL: " ++ String.ofList text

def dropEndSlashes (cs : List Char) : List Char :=
  (cs.reverse.dropWhile (· == '/')).reverse

def isWebScheme (scheme : List Char) : Bool :=
  scheme == ['h', 't', 't', 'p'] || scheme == ['h', 't', 't', 'p', 's']

def host (text : List Char) : Except HostError (List Char) :=
  match split text with
  | .error cause => .error (.parts cause)
  | .ok parts =>
    if isWebScheme parts.scheme && !parts.authority.isEmpty then .ok (dropEndSlashes text)
    else .error (.refused text)

end KubeletCollector.Url
