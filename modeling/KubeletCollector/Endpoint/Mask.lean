import KubeletCollector.Endpoint.Kind

/-!
Masks: the endpoints that are known to answer. A frozen mask refuses every write.
-/

namespace KubeletCollector

structure EndpointMask where
  summary : Bool := false
  cadvisor : Bool := false
  container : Bool := false
  frozen : Bool := false
deriving DecidableEq, Repr

namespace EndpointMask

def has (mask : EndpointMask) : EndpointKind → Bool
  | .summary => mask.summary
  | .cadvisor => mask.cadvisor
  | .container => mask.container

/-- The mask with `kind` marked, frozen or not. -/
def mark (mask : EndpointMask) (kind : EndpointKind) (available : Bool) : EndpointMask :=
  match kind with
  | .summary => { mask with summary := available }
  | .cadvisor => { mask with cadvisor := available }
  | .container => { mask with container := available }

theorem has_mark (mask : EndpointMask) (kind other : EndpointKind) (available : Bool) :
    (mask.mark kind available).has other = if other = kind then available else mask.has other := by
  cases kind <;> cases other <;> rfl

theorem frozen_mark (mask : EndpointMask) (kind : EndpointKind) (available : Bool) :
    (mask.mark kind available).frozen = mask.frozen := by
  cases kind <;> rfl

/-- The mask with `kind` marked, or nothing if it is frozen. -/
def set? (mask : EndpointMask) (kind : EndpointKind) (available : Bool) : Option EndpointMask :=
  if mask.frozen then none else some (mask.mark kind available)

def freeze (mask : EndpointMask) : EndpointMask :=
  { mask with frozen := true }

theorem has_freeze (mask : EndpointMask) (kind : EndpointKind) :
    mask.freeze.has kind = mask.has kind := by
  cases kind <;> rfl

def kinds (mask : EndpointMask) : List EndpointKind :=
  EndpointKind.fetchOrder.filter mask.has

theorem mem_kinds {mask : EndpointMask} {kind : EndpointKind} :
    kind ∈ mask.kinds ↔ mask.has kind = true := by
  simp [kinds, EndpointKind.mem_fetchOrder]

theorem nodup_kinds (mask : EndpointMask) : mask.kinds.Nodup :=
  List.Pairwise.filter _ (by decide : EndpointKind.fetchOrder.Nodup)

def ofKinds (kinds : List EndpointKind) (frozen : Bool) : EndpointMask :=
  { kinds.foldl (mark · · true) {} with frozen }

/-- Two masks are alike if they hold the same endpoints, frozen or not. -/
def alike (a b : EndpointMask) : Bool :=
  a.freeze = b.freeze

theorem alike_iff {a b : EndpointMask} : a.alike b = true ↔ ∀ kind, a.has kind = b.has kind := by
  constructor
  · intro h kind
    rw [← has_freeze a, ← has_freeze b, of_decide_eq_true h]
  · intro h
    have h₁ := h .summary
    have h₂ := h .cadvisor
    have h₃ := h .container
    simp_all [alike, freeze, has]

def text (mask : EndpointMask) : String :=
  "EndpointMask(\x7b" ++ String.intercalate ", " (mask.kinds.map EndpointKind.text) ++ "\x7d"
    ++ (if mask.frozen then ", frozen" else "") ++ ")"

end EndpointMask

end KubeletCollector
