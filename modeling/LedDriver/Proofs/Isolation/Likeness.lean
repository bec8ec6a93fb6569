import LedDriver.Proofs.Isolation.Fleet
import LedDriver.Proofs.System.Sights
import LedDriver.Proofs.System.Trees

/-!
# Programs that do the same for a device

Two programs do the same for a device if they ask the same questions but for the numbers of its
sessions, and go on in the same way whatever the answers (`Fleet.ProgramAlike`).  Sessions can be
created on the way, so that what follows is about more and more links.  The surroundings of the
driver stay apart if the programs of each device's lower halves and platforms do the same for it
under any numbers (`Fleet.Apart`).
-/

namespace LedDriver

variable {ι σ τ α β γ δ : Type}

/-- The same outcome of a registration but for the number of the session. -/
def Registration.Alike (ρ : Links) : Registration → Registration → Prop
  | .registered s, .registered s' => ρ s s'
  | x, x' => x = x'

lemma Registration.Alike.mono {ρ ρ' : Links} {x x' : Registration} (h : x.Alike ρ x')
    (grows : ρ ≤ ρ') :
    x.Alike ρ' x' := by
  cases x <;> cases x' <;> first | exact grows _ _ h | exact h

namespace Fleet

/-- A request to register the device. -/
structure Requests (F : Fleet ι σ τ) (d : ι) (r : RegistrationRequest) : Prop where
  path : r.path = F.path d
  lower : ∃ k, r.lower = F.lower d k
  platform : ∃ k, r.platform = F.platform d k
  registry : r.registry = none

/-- A call that leaves the driver, other than for an operation, is one for the device. -/
def Belongs (F : Fleet ι σ τ) (d : ι) : Peer → Prop
  | .provided h | .discard h => ∃ k, h = F.lower d k
  | .enter p | .leave p _ | .checkWait p | .relax p => ∃ k, p = F.platform d k
  | .log _ => True
  | .operate _ _ _ _ _ | .publish _ _ _ _ => False

/-- Two calls do the same for a device, and their answers are related: both are about sessions that
stand for each other, or about its path, its lower halves or its platforms. -/
inductive CallAlike (F : Fleet ι σ τ) (d : ι) (ρ : Links) :
    (c c' : Call) → (Links → c.Answer → c'.Answer → Prop) → Prop
  | openDevice {s s' : SessionId} (h : ρ s s') :
    CallAlike F d ρ (.service (.openDevice s)) (.service (.openDevice s')) fun _ => Eq
  | closeDevice {s s' : SessionId} (h : ρ s s') :
    CallAlike F d ρ (.service (.closeDevice s)) (.service (.closeDevice s')) fun _ => Eq
  | command {s s' : SessionId} (h : ρ s s') (c : Command) :
    CallAlike F d ρ (.service (.command s c)) (.service (.command s' c)) fun _ => Eq
  | control {s s' : SessionId} (h : ρ s s') (m : ControlMethod) :
    CallAlike F d ρ (.service (.control s m)) (.service (.control s' m)) fun _ => Eq
  | operate {s s' : SessionId} (h : ρ s s') (o : Operation) (args : o.Args) :
    CallAlike F d ρ (.service (.operate s o args)) (.service (.operate s' o args)) fun _ => Eq
  | provided {s s' : SessionId} (h : ρ s s') :
    CallAlike F d ρ (.service (.provided s)) (.service (.provided s')) fun _ => Eq
  | openCount {s s' : SessionId} (h : ρ s s') :
    CallAlike F d ρ (.service (.openCount s)) (.service (.openCount s')) fun _ => Eq
  | config {s s' : SessionId} (h : ρ s s') :
    CallAlike F d ρ (.service (.config s)) (.service (.config s')) fun _ => Eq
  | register {r : RegistrationRequest} (h : F.Requests d r) :
    CallAlike F d ρ (.service (.register r)) (.service (.register r)) Registration.Alike
  | lookup :
    CallAlike F d ρ (.service (.table (.lookup (F.path d))))
      (.service (.table (.lookup (F.path d)))) Option.Rel
  | tryWait {s s' : SessionId} (h : ρ s s') :
    CallAlike F d ρ (.routine (.tryWait (.guard s))) (.routine (.tryWait (.guard s'))) fun _ => Eq
  | claim {s s' : SessionId} (h : ρ s s') (seen : UInt32) :
    CallAlike F d ρ (.routine (.claim (.guard s) seen))
      (.routine (.claim (.guard s') seen)) fun _ => Eq
  | wait {s s' : SessionId} (h : ρ s s') {p : PlatformId} (own : ∃ k, p = F.platform d k) :
    CallAlike F d ρ (.routine (.wait (.guard s) p)) (.routine (.wait (.guard s') p)) fun _ => Eq
  | lower {s s' : SessionId} (h : ρ s s') (caller : Caller) {l : LowerId}
    (own : ∃ k, l = F.lower d k) (o : Operation) (args : o.Args) :
    CallAlike F d ρ (.peer (.operate caller l s o args))
      (.peer (.operate caller l s' o args)) fun _ => Eq
  | peer {c : Peer} (h : F.Belongs d c) : CallAlike F d ρ (.peer c) (.peer c) fun _ => Eq

/-- Two programs do the same for a device, and end with related results. -/
inductive ProgramAlike (F : Fleet ι σ τ) (d : ι) (R : Links → α → β → Prop) :
    Links → Action σ α → Action σ β → Prop
  | done {ρ : Links} {a : α} {b : β} (h : R ρ a b) : ProgramAlike F d R ρ (.done a) (.done b)
  | atom {ρ : Links} {a a' : Atom σ} {S : Links → a.Answer → a'.Answer → Prop}
    {next : a.Answer → Action σ α} {next' : a'.Answer → Action σ β} (h : AtomAlike F d ρ a a' S)
    (rest : ∀ {ρ' : Links} {x x'}, ρ ≤ ρ' → S ρ' x x' →
      ProgramAlike F d R ρ' (next x) (next' x')) :
    ProgramAlike F d R ρ (.ask (.atom a) next) (.ask (.atom a') next')
  /-- Atoms under the locks that protect what they use. -/
  | locked {ρ : Links} {a a' : Atom σ} {S : Links → a.Answer → a'.Answer → Prop} {l l' : LockId}
    {next : a.Answer → Action σ α} {next' : a'.Answer → Action σ β} (h : AtomAlike F d ρ a a' S)
    (under : l.Protects a) (under' : l'.Protects a')
    (rest : ∀ {ρ' : Links} {x x'}, ρ ≤ ρ' → S ρ' x x' →
      ProgramAlike F d R ρ' (next x) (next' x')) :
    ProgramAlike F d R ρ
      (.ask (.atom (.acquire l)) fun _ => .ask (.atom a) fun x =>
        .ask (.atom (.release l)) fun _ => next x)
      (.ask (.atom (.acquire l')) fun _ => .ask (.atom a') fun x =>
        .ask (.atom (.release l')) fun _ => next' x)
  | call {ρ : Links} {c c' : Call} {S : Links → c.Answer → c'.Answer → Prop}
    {next : c.Answer → Action σ α} {next' : c'.Answer → Action σ β} (h : CallAlike F d ρ c c' S)
    (rest : ∀ {ρ' : Links} {x x'}, ρ ≤ ρ' → S ρ' x x' →
      ProgramAlike F d R ρ' (next x) (next' x')) :
    ProgramAlike F d R ρ (.ask (.call c) next) (.ask (.call c') next')

/-- The board keeps the devices apart: what happens for a device does the same for it under any
numbers of its sessions, and has nothing to do with the other devices. -/
structure Apart (F : Fleet ι σ τ) (B : Board σ) : Prop where
  operate : ∀ d k {ρ : Links} {s s' : SessionId}, ρ s s' → ∀ (o : Operation) (args : o.Args),
    F.ProgramAlike d (fun _ => Eq) ρ ((B.lower (F.lower d k)).operate s o args).action
      ((B.lower (F.lower d k)).operate s' o args).action
  others : ∀ d {ρ : Links} {c : Peer}, F.Belongs d c →
    F.ProgramAlike d (fun _ => Eq) ρ (B.reaction c).action (B.reaction c).action

variable {F : Fleet ι σ τ} {d : ι} {ρ ρ' : Links} {R : Links → α → β → Prop}

namespace ProgramAlike

/-- One program after another. -/
lemma bind {S : Links → γ → δ → Prop} {p : Action σ α} {p' : Action σ β} {f : α → Action σ γ}
    {f' : β → Action σ δ} (h : F.ProgramAlike d R ρ p p')
    (rest : ∀ {ρ' : Links} {x x'}, ρ ≤ ρ' → R ρ' x x' →
      F.ProgramAlike d S ρ' (f x) (f' x')) :
    F.ProgramAlike d S ρ (p.bind f) (p'.bind f') := by
  induction h with
  | done h => exact rest le_rfl h
  | atom h _ ih =>
    exact .atom h fun grows related => ih grows related fun later => rest (grows.trans later)
  | locked h under under' _ ih =>
    exact .locked h under under' fun grows related => ih grows related fun later =>
      rest (grows.trans later)
  | call h _ ih =>
    exact .call h fun grows related => ih grows related fun later => rest (grows.trans later)

end ProgramAlike

end Fleet

end LedDriver
