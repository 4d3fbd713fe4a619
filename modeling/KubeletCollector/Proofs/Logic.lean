import KubeletCollector.Proofs.Outcome
import KubeletCollector.Proofs.Pooled

/-! Logics of actions. What a logic says of the steps of an action it says of the action, so
the code is walked through once and every logic profits. One logic is about what an
action does to one outside, another about two runs of it side by side. -/

namespace KubeletCollector

open Text

/-- A pairing in which every step is in step with itself, as long as the requests and the paths are
of a certain kind. -/
structure Act.Logic where
  pairing : Pairing
  asks : Request → Prop
  reaches : Path → Prop
  spots : Location → Prop
  asked {r : Request} : asks r → pairing.asks r r
  log {E : Fault → Prop} (level : LogLevel) (component event : String)
    (fields : List (String × LogValue)) :
      (Act.log level component event fields).InStep pairing (fun _ => True) E
        (Act.log level component event fields)
  note {E : Fault → Prop} {event : Event} :
    event.request? = none → event.isMark = false → event.hooked? = none →
      (Act.note event).InStep pairing (fun _ => True) E (Act.note event)
  openEmpty {E : Fault → Prop} {p : Path} : reaches p → (p.hasNull = true → E .nullInPath) →
    (∀ cause, E (.file cause p)) → (Act.openEmpty p).InStep pairing spots E (Act.openEmpty p)
  appendTo {E : Fault → Prop} {loc : Location} (bytes : Bytes) : spots loc →
    (Act.appendTo loc bytes).InStep pairing (fun _ => True) E (Act.appendTo loc bytes)
  removeFile {E : Fault → Prop} {p : Path} : reaches p → (p.hasNull = true → E .nullInPath) →
    (∀ cause, E (.file cause p)) →
      (Act.removeFile p).InStep pairing (fun _ => True) E (Act.removeFile p)

namespace Act.Logic

variable (L : Act.Logic) {α β : Type} {V : α → Prop} {W : β → Prop} {E E' : Fault → Prop}

/-- `act` returns what satisfies `V`, or ends in a fault that satisfies `E`. -/
abbrev Holds (V : α → Prop) (E : Fault → Prop) (act : Act α) : Prop :=
  act.InStep L.pairing V E act

abbrev answers (r : Request) (reply : Reply) : Prop :=
  L.pairing.answers r reply

theorem pure {a : α} (h : V a) : L.Holds V E (Pure.pure a) :=
  InStep.pure h

theorem throw {f : Fault} (h : E f) : L.Holds V E (MonadExcept.throw f : Act α) :=
  InStep.throw h

theorem bind {act : Act α} {next : α → Act β} (h : L.Holds V E act)
    (hn : ∀ a, V a → L.Holds W E (next a)) : L.Holds W E (act >>= next) :=
  InStep.bind h hn

theorem attempt {act : Act α} {next : Except Fault α → Act β} (h : L.Holds V E act)
    (hok : ∀ a, V a → L.Holds W E' (next (.ok a)))
    (herr : ∀ f, E f → L.Holds W E' (next (.error f))) :
    L.Holds W E' (Act.attempt act >>= next) :=
  InStep.attempt h hok herr

theorem await : L.Holds (fun _ => True) E Act.await :=
  InStep.await

theorem exchange {r : Request} (h : L.asks r) : L.Holds (L.answers r) E (Act.exchange r) :=
  InStep.exchange (L.asked h)

variable {L}

theorem forM {act : α → Act Unit} (as : List α) (h : ∀ a ∈ as, L.Holds (fun _ => True) E (act a)) :
    L.Holds (fun _ => True) E (as.forM act) :=
  InStep.forM as h

theorem raiseIf {f : Option Fault} (h : ∀ g, f = some g → E g) :
    L.Holds (fun _ => True) E (Act.raiseIf f) := by
  cases f with
  | none => exact L.pure trivial
  | some g => exact L.throw (h g rfl)

end Act.Logic

end KubeletCollector
