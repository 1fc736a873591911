import ClassMesh.Foundation.OrderedMap
import ClassMesh.Foundation.Run

namespace ClassMesh

open Std Foundation

section Flags

def keyeventfExtendedkey : UInt32 := 0x1
def keyeventfKeyup : UInt32 := 0x2
def keyeventfScancode : UInt32 := 0x8
def mouseeventfMove : UInt32 := 0x1
def mouseeventfLeftdown : UInt32 := 0x2
def mouseeventfLeftup : UInt32 := 0x4
def mouseeventfRightdown : UInt32 := 0x8
def mouseeventfRightup : UInt32 := 0x10
def mouseeventfMiddledown : UInt32 := 0x20
def mouseeventfMiddleup : UInt32 := 0x40
def mouseeventfXdown : UInt32 := 0x80
def mouseeventfXup : UInt32 := 0x100
def mouseeventfWheel : UInt32 := 0x800
def mouseeventfHwheel : UInt32 := 0x1000
def mouseeventfVirtualdesk : UInt32 := 0x4000
def mouseeventfAbsolute : UInt32 := 0x8000

end Flags

def absoluteCoordinateMax : Int32 := 65535

inductive MouseButton
  | left
  | right
  | middle
  | x1
  | x2
deriving DecidableEq

structure InputKey where
  virtualKey : UInt16
  scanCode : UInt16
  extended : Bool
deriving DecidableEq

namespace MouseButton

def rank : MouseButton → Nat
  | left => 0
  | right => 1
  | middle => 2
  | x1 => 3
  | x2 => 4

instance : Ord MouseButton := ⟨compareOn rank⟩

instance : TransOrd MouseButton := inferInstanceAs (TransCmp (compareOn rank))

instance : LawfulEqOrd MouseButton where
  eq_of_compare {a b} same := by
    have ranks : a.rank = b.rank := LawfulEqOrd.eq_of_compare (α := Nat) same
    cases a <;> cases b <;> first | rfl | cases ranks

end MouseButton

namespace InputKey

/-- The position of a key in the order by virtual key, scan code and extension. -/
def rank (key : InputKey) : Nat := (key.virtualKey.toNat * 2 ^ 16 + key.scanCode.toNat) * 2 + key.extended.toNat

theorem rank_injective {a b : InputKey} (same : a.rank = b.rank) : a = b := by
  obtain ⟨virtualA, scanA, extendedA⟩ := a
  obtain ⟨virtualB, scanB, extendedB⟩ := b
  have boundA := scanA.toNat_lt
  have boundB := scanB.toNat_lt
  simp only [rank] at same
  have bitA := Bool.toNat_lt extendedA
  have bitB := Bool.toNat_lt extendedB
  have virtual : virtualA = virtualB := UInt16.toNat_inj.mp (by omega)
  have scan : scanA = scanB := UInt16.toNat_inj.mp (by omega)
  have bits : extendedA.toNat = extendedB.toNat := by omega
  have extended : extendedA = extendedB := by
    cases extendedA <;> cases extendedB <;> first | rfl | cases bits
  rw [virtual, scan, extended]

instance : Ord InputKey := ⟨compareOn rank⟩

instance : TransOrd InputKey := inferInstanceAs (TransCmp (compareOn rank))

instance : LawfulEqOrd InputKey where
  eq_of_compare same := rank_injective (LawfulEqOrd.eq_of_compare (α := Nat) same)

end InputKey

inductive InputAction
  | mouseMove (x y : Int32) (absolute : Bool)
  | mouseButton (button : MouseButton) (down : Bool)
  | mouseWheel (delta : Int32) (horizontal : Bool)
  | key (virtualKey scanCode : UInt32) (down extended : Bool)
  | releaseAll
deriving DecidableEq

inductive InputDesktopUnavailable
  | notInputDesktop
  | probeFailed
deriving DecidableEq

inductive InputError
  | absoluteCoordinateOutOfRange (x y : Int32)
  | keyCodeOutOfRange (virtualKey scanCode : UInt32)
  | missingKeyCode
  | desktopUnavailable (reason : InputDesktopUnavailable)
  | sendInput (requested inserted : Nat)
deriving DecidableEq

/-- What the system is asked to inject. -/
inductive Input
  | mouse (dx dy : Int32) (mouseData flags : UInt32)
  | keyboard (virtualKey scanCode : UInt16) (flags : UInt32)
deriving DecidableEq

structure InputInjector where
  pressedKeys : BTreeSet InputKey := ∅
  pressedButtons : BTreeSet MouseButton := ∅

def validateKey (virtualKey scanCode : UInt32) (extended : Bool) : Except InputError InputKey :=
  if 2 ^ 16 ≤ virtualKey.toNat then .error (.keyCodeOutOfRange virtualKey scanCode)
  else if 2 ^ 16 ≤ scanCode.toNat then .error (.keyCodeOutOfRange virtualKey scanCode)
  else if virtualKey = 0 ∧ scanCode = 0 then .error .missingKeyCode
  else .ok ⟨virtualKey.toUInt16, scanCode.toUInt16, extended⟩

def mouseMoveInput (x y : Int32) (absolute : Bool) : Except InputError Input :=
  if absolute then
    if ¬(0 ≤ x ∧ x ≤ absoluteCoordinateMax) ∨ ¬(0 ≤ y ∧ y ≤ absoluteCoordinateMax) then
      .error (.absoluteCoordinateOutOfRange x y)
    else .ok (.mouse x y 0 (mouseeventfMove ||| (mouseeventfAbsolute ||| mouseeventfVirtualdesk)))
  else .ok (.mouse x y 0 mouseeventfMove)

def mouseButtonInput (button : MouseButton) (down : Bool) : Input :=
  let (flags, mouseData) : UInt32 × UInt32 :=
    match button, down with
    | .left, true => (mouseeventfLeftdown, 0)
    | .left, false => (mouseeventfLeftup, 0)
    | .right, true => (mouseeventfRightdown, 0)
    | .right, false => (mouseeventfRightup, 0)
    | .middle, true => (mouseeventfMiddledown, 0)
    | .middle, false => (mouseeventfMiddleup, 0)
    | .x1, true => (mouseeventfXdown, 1)
    | .x1, false => (mouseeventfXup, 1)
    | .x2, true => (mouseeventfXdown, 2)
    | .x2, false => (mouseeventfXup, 2)
  .mouse 0 0 mouseData flags

def mouseWheelInput (delta : Int32) (horizontal : Bool) : Input :=
  .mouse 0 0 delta.toUInt32 (if horizontal then mouseeventfHwheel else mouseeventfWheel)

def keyInput (key : InputKey) (down : Bool) : Input :=
  let (virtualKey, scanCode, flags) : UInt16 × UInt16 × UInt32 :=
    if key.scanCode = 0 then (key.virtualKey, 0, 0) else (0, key.scanCode, keyeventfScancode)
  let flags := if key.extended then flags ||| keyeventfExtendedkey else flags
  let flags := if down then flags else flags ||| keyeventfKeyup
  .keyboard virtualKey scanCode flags

section Desktop

/-- What the desktop can see held down. A key is known by its scan code where the event has one, else by its virtual
key, and in both cases by whether it is an extended key. -/
inductive InputCode
  | scan (code : UInt16) (extended : Bool)
  | virtual (key : UInt16) (extended : Bool)
  | button (button : MouseButton)
deriving DecidableEq

def xButton (mouseData : UInt32) : Option MouseButton :=
  if mouseData = 1 then some .x1 else if mouseData = 2 then some .x2 else none

/-- What an event presses (`true`) or releases (`false`), if it does either. -/
def Input.effect : Input → Option (InputCode × Bool)
  | .keyboard virtualKey scanCode flags =>
    let extended := flags &&& keyeventfExtendedkey ≠ 0
    let down := flags &&& keyeventfKeyup = 0
    if flags &&& keyeventfScancode ≠ 0 then some (.scan scanCode extended, down)
    else some (.virtual virtualKey extended, down)
  | .mouse _ _ mouseData flags =>
    if flags &&& mouseeventfLeftdown ≠ 0 then some (.button .left, true)
    else if flags &&& mouseeventfLeftup ≠ 0 then some (.button .left, false)
    else if flags &&& mouseeventfRightdown ≠ 0 then some (.button .right, true)
    else if flags &&& mouseeventfRightup ≠ 0 then some (.button .right, false)
    else if flags &&& mouseeventfMiddledown ≠ 0 then some (.button .middle, true)
    else if flags &&& mouseeventfMiddleup ≠ 0 then some (.button .middle, false)
    else if flags &&& mouseeventfXdown ≠ 0 then (xButton mouseData).map (.button ·, true)
    else if flags &&& mouseeventfXup ≠ 0 then (xButton mouseData).map (.button ·, false)
    else none

/-- The codes held down after one more event. -/
def delivered (down : Finset InputCode) (input : Input) : Finset InputCode :=
  match input.effect with
  | none => down
  | some (code, true) => insert code down
  | some (code, false) => down.erase code

/-- What the three calls of the desktop probe return: no desktop of the thread, no answer about it, or whether it is
the one that receives input. -/
inductive DesktopProbe
  | noDesktop
  | noInformation
  | isInputDesktop (value : Int32)
deriving DecidableEq

def ensureInputDesktop : DesktopProbe → Except InputError Unit
  | .noDesktop => .error (.desktopUnavailable .probeFailed)
  | .noInformation => .error (.desktopUnavailable .probeFailed)
  | .isInputDesktop value => if value = 0 then .error (.desktopUnavailable .notInputDesktop) else .ok ()

/-- The system inserts as many events of a batch as it likes, and says how many. A batch whose length has no `u32` is a
panic. -/
def sendInputs (down : Finset InputCode) (inputs : List Input) (willing : Nat) :
    Option (Finset InputCode × Except InputError Unit) :=
  if inputs.isEmpty then some (down, .ok ())
  else if 2 ^ 32 ≤ inputs.length then none
  else
    let inserted := min willing inputs.length
    let down := (inputs.take inserted).foldl delivered down
    if inserted ≠ inputs.length then some (down, .error (.sendInput inputs.length inserted)) else some (down, .ok ())

end Desktop

/-- An injector and the codes that its desktop holds down because of it. -/
structure InjectorState where
  injector : InputInjector := {}
  down : Finset InputCode := ∅

namespace InjectorState

/-- Sends a batch, and updates the tracking once all of it is inserted. -/
def send (state : InjectorState) (inputs : List Input) (willing : Nat) (tracking : InputInjector) :
    Option (InjectorState × Except InputError Unit) :=
  (sendInputs state.down inputs willing).map fun
    | (down, .ok ()) => (⟨tracking, down⟩, .ok ())
    | (down, .error error) => (⟨state.injector, down⟩, .error error)

def releaseInputs (injector : InputInjector) : List Input :=
  injector.pressedKeys.toList.map (keyInput · false) ++ injector.pressedButtons.toList.map (mouseButtonInput · false)

def releaseAll (state : InjectorState) (willing : Nat) : Option (InjectorState × Except InputError Unit) :=
  if state.injector.pressedKeys.isEmpty && state.injector.pressedButtons.isEmpty then some (state, .ok ())
  else state.send (releaseInputs state.injector) willing {}

def apply (state : InjectorState) (probe : DesktopProbe) (willing : Nat) (action : InputAction) :
    Option (InjectorState × Except InputError Unit) :=
  match ensureInputDesktop probe with
  | .error error => some (state, .error error)
  | .ok () =>
    match action with
    | .mouseMove x y absolute =>
      match mouseMoveInput x y absolute with
      | .error error => some (state, .error error)
      | .ok input => state.send [input] willing state.injector
    | .mouseButton button down =>
      let buttons := state.injector.pressedButtons
      state.send [mouseButtonInput button down] willing
        { state.injector with pressedButtons := if down then buttons.insert button else buttons.erase button }
    | .mouseWheel delta horizontal => state.send [mouseWheelInput delta horizontal] willing state.injector
    | .key virtualKey scanCode down extended =>
      match validateKey virtualKey scanCode extended with
      | .error error => some (state, .error error)
      | .ok key =>
        let keys := state.injector.pressedKeys
        state.send [keyInput key down] willing
          { state.injector with pressedKeys := if down then keys.insert key else keys.erase key }
    | .releaseAll => state.releaseAll willing

end InjectorState

inductive InjectorInput
  | apply (probe : DesktopProbe) (willing : Nat) (action : InputAction)
  | releaseAll (willing : Nat)
deriving DecidableEq

def InjectorState.step (state : InjectorState) : InjectorInput → Option (InjectorState × Except InputError Unit)
  | .apply probe willing action => state.apply probe willing action
  | .releaseAll willing => state.releaseAll willing

end ClassMesh
