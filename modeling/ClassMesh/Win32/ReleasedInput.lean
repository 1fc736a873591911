import ClassMesh.Win32.InputInjector

namespace ClassMesh

open Std Foundation InjectorState ExtTreeSet InputInjector

/-- The code that events for a key carry. -/
def keyCode (key : InputKey) : InputCode :=
  if key.scanCode = 0 then .virtual key.virtualKey key.extended else .scan key.scanCode key.extended

theorem keyInput_effect (key : InputKey) (down : Bool) : (keyInput key down).effect = some (keyCode key, down) := by
  obtain ⟨_, scanCode, extended⟩ := key
  by_cases none : scanCode = 0 <;> cases extended <;> cases down <;>
    simp +decide [keyInput, keyCode, Input.effect, none]

theorem mouseButtonInput_effect (button : MouseButton) (down : Bool) :
    (mouseButtonInput button down).effect = some (.button button, down) := by
  cases button <;> cases down <;> decide

theorem mouseWheelInput_effect (delta : Int32) (horizontal : Bool) :
    (mouseWheelInput delta horizontal).effect = none := by
  cases horizontal <;> rfl

theorem mouseMoveInput_effect {x y : Int32} {absolute : Bool} {input : Input}
    (valid : mouseMoveInput x y absolute = .ok input) : input.effect = none := by
  unfold mouseMoveInput at valid
  split at valid
  · split at valid
    · cases valid
    · cases valid
      rfl
  · cases valid
    rfl

variable {down : Finset InputCode} {injector : InputInjector}

/-- The part of a batch that the system inserts, which is all of it if and only if the call succeeds. -/
theorem sendInputs_inserts {after : Finset InputCode} {inputs : List Input} {willing : Nat}
    {result : Except InputError Unit} (sent : sendInputs down inputs willing = some (after, result)) :
    ∃ inserted, after = (inputs.take inserted).foldl delivered down ∧
      ((result = .ok () ∧ inserted = inputs.length) ∨ (∃ error, result = .error error) ∧ inserted < inputs.length) := by
  unfold sendInputs at sent
  split at sent
  · rename_i empty
    cases sent
    rw [List.isEmpty_iff] at empty
    subst empty
    exact ⟨0, rfl, .inl ⟨rfl, rfl⟩⟩
  · split at sent
    · cases sent
    · simp only at sent
      split at sent
      · rename_i part
        cases sent
        exact ⟨min willing inputs.length, rfl, .inr ⟨⟨_, rfl⟩, by omega⟩⟩
      · rename_i all
        cases sent
        exact ⟨min willing inputs.length, rfl, .inl ⟨rfl, not_not.mp all⟩⟩

/-- The injector has an entry whose release would release a code. -/
def InputInjector.Tracked (injector : InputInjector) (code : InputCode) : Prop :=
  (∃ key ∈ injector.pressedKeys, keyCode key = code) ∨ ∃ button ∈ injector.pressedButtons, .button button = code

def InjectorInput.isRelease : InjectorInput → Bool
  | .apply _ _ .releaseAll => true
  | .apply _ _ _ => false
  | .releaseAll _ => true

abbrev InjectorCall := Call InjectorState InjectorInput (Except InputError Unit)

/-- The code that a call has pressed. -/
def pressedCode (call : InjectorCall) : Option InputCode :=
  match call.input, call.reply with
  | .apply _ _ (.mouseButton button true), .ok () => some (.button button)
  | .apply _ _ (.key virtualKey scanCode true extended), .ok () =>
    (validateKey virtualKey scanCode extended).toOption.map keyCode
  | _, _ => none

/-- All that a call can do to the tracking and to the desktop. -/
inductive InjectorOutcome (state : InjectorState) : InjectorCall → Prop
  | unchanged {input reply} (other : input.isRelease = false ∨ reply ≠ .ok ()) :
      InjectorOutcome state ⟨state, input, reply, state⟩
  | pressed {input reply tracking} {code : InputCode} (other : input.isRelease = false)
      (presses : pressedCode ⟨state, input, reply, ⟨tracking, insert code state.down⟩⟩ = some code)
      (tracks : ∀ c, Tracked tracking c ↔ c = code ∨ Tracked state.injector c) :
      InjectorOutcome state ⟨state, input, reply, ⟨tracking, insert code state.down⟩⟩
  | released {input reply tracking} {code : InputCode} (other : input.isRelease = false)
      (fewer : ∀ c, Tracked tracking c → Tracked state.injector c)
      (keeps : ∀ c, c ≠ code → Tracked state.injector c → Tracked tracking c) :
      InjectorOutcome state ⟨state, input, reply, ⟨tracking, state.down.erase code⟩⟩
  | releasedAll {input} (release : input.isRelease) :
      InjectorOutcome state
        ⟨state, input, .ok (), ⟨{}, (InjectorState.releaseInputs state.injector).foldl delivered state.down⟩⟩
  | releaseFailed {input error} (release : input.isRelease) (inserted : Nat) :
      InjectorOutcome state ⟨state, input, .error error, ⟨state.injector,
        ((InjectorState.releaseInputs state.injector).take inserted).foldl delivered state.down⟩⟩

section Steps

variable {state after : InjectorState} {input : InjectorInput} {reply : Except InputError Unit} {willing : Nat}
  {probe : DesktopProbe}

theorem send_single {event : Input} {tracking : InputInjector}
    (sent : state.send [event] willing tracking = some (after, reply)) :
    (reply = .ok () ∧ after = ⟨tracking, delivered state.down event⟩) ∨
      (∃ error, reply = .error error) ∧ after = state := by
  obtain ⟨⟨_, _⟩, inserted, same⟩ := Option.map_eq_some_iff.mp sent
  obtain ⟨count, rfl, ⟨rfl, rfl⟩ | ⟨⟨error, rfl⟩, none⟩⟩ := sendInputs_inserts inserted
  · cases same
    exact .inl ⟨rfl, rfl⟩
  · cases same
    obtain rfl : count = 0 := by simpa using none
    exact .inr ⟨⟨error, rfl⟩, rfl⟩

theorem releaseAll_outcome (release : input.isRelease) (taken : state.releaseAll willing = some (after, reply)) :
    InjectorOutcome state ⟨state, input, reply, after⟩ := by
  unfold releaseAll at taken
  split at taken
  · rename_i empty
    cases taken
    rw [Bool.and_eq_true, ExtTreeSet.isEmpty_iff, ExtTreeSet.isEmpty_iff] at empty
    obtain ⟨⟨_, _⟩, _⟩ := state
    obtain ⟨rfl, rfl⟩ := empty
    exact .releasedAll release
  · obtain ⟨⟨_, _⟩, inserted, same⟩ := Option.map_eq_some_iff.mp taken
    obtain ⟨count, rfl, ⟨rfl, rfl⟩ | ⟨⟨_, rfl⟩, _⟩⟩ := sendInputs_inserts inserted
    · cases same
      rw [List.take_length]
      exact .releasedAll release
    · cases same
      exact .releaseFailed release count

/-- An event that presses and releases nothing. -/
theorem harmless_outcome {event : Input} (other : input.isRelease = false) (nothing : event.effect = none)
    (sent : state.send [event] willing state.injector = some (after, reply)) :
    InjectorOutcome state ⟨state, input, reply, after⟩ := by
  rcases send_single sent with ⟨rfl, rfl⟩ | ⟨-, rfl⟩
  · rw [delivered, nothing]
    exact .unchanged (.inl other)
  · exact .unchanged (.inl other)

theorem mouseButton_outcome {button : MouseButton} {down : Bool}
    (sent : state.send [mouseButtonInput button down] willing
      { state.injector with
        pressedButtons :=
          if down then state.injector.pressedButtons.insert button else state.injector.pressedButtons.erase button } =
      some (after, reply)) :
    InjectorOutcome state ⟨state, .apply probe willing (.mouseButton button down), reply, after⟩ := by
  rcases send_single sent with ⟨rfl, rfl⟩ | ⟨-, rfl⟩
  · rw [delivered, mouseButtonInput_effect]
    cases down with
    | true =>
      refine .pressed rfl rfl fun code => ?_
      simp only [Tracked, if_true, mem_insert, Std.compare_eq_iff_eq]
      grind
    | false =>
      refine .released rfl ?_ ?_
      · intro code
        simp only [Tracked, Bool.false_eq_true, if_false, mem_erase]
        grind
      · intro code
        simp only [Tracked, Bool.false_eq_true, if_false, mem_erase, ne_eq, Std.compare_eq_iff_eq]
        grind
  · exact .unchanged (.inl rfl)

theorem key_outcome {virtualKey scanCode : UInt32} {down extended : Bool} {key : InputKey}
    (valid : validateKey virtualKey scanCode extended = .ok key)
    (sent : state.send [keyInput key down] willing
      { state.injector with
        pressedKeys :=
          if down then state.injector.pressedKeys.insert key else state.injector.pressedKeys.erase key } =
      some (after, reply)) :
    InjectorOutcome state ⟨state, .apply probe willing (.key virtualKey scanCode down extended), reply, after⟩ := by
  rcases send_single sent with ⟨rfl, rfl⟩ | ⟨-, rfl⟩
  · rw [delivered, keyInput_effect]
    cases down with
    | true =>
      refine .pressed rfl (by simp [pressedCode, valid, Except.toOption]) fun code => ?_
      simp only [Tracked, if_true, mem_insert, Std.compare_eq_iff_eq]
      grind
    | false =>
      refine .released rfl ?_ ?_
      · intro code
        simp only [Tracked, Bool.false_eq_true, if_false, mem_erase]
        grind
      · intro code
        simp only [Tracked, Bool.false_eq_true, if_false, mem_erase, ne_eq, Std.compare_eq_iff_eq]
        grind
  · exact .unchanged (.inl rfl)

theorem step_injects (taken : Partial step state input reply after) :
    InjectorOutcome state ⟨state, input, reply, after⟩ := by
  unfold Foundation.Partial at taken
  cases input with
  | releaseAll => exact releaseAll_outcome rfl taken
  | apply probe willing action =>
    rw [step] at taken
    unfold apply at taken
    split at taken
    · cases taken
      exact .unchanged (.inr (by simp))
    · cases action with
      | mouseMove =>
        simp only at taken
        split at taken
        · cases taken
          exact .unchanged (.inl rfl)
        · rename_i valid
          exact harmless_outcome rfl (mouseMoveInput_effect valid) taken
      | mouseButton => exact mouseButton_outcome taken
      | mouseWheel delta horizontal => exact harmless_outcome rfl (mouseWheelInput_effect delta horizontal) taken
      | key =>
        simp only at taken
        split at taken
        · cases taken
          exact .unchanged (.inl rfl)
        · rename_i valid
          exact key_outcome valid taken
      | releaseAll => exact releaseAll_outcome rfl taken

end Steps

theorem mem_releaseInputs {event : Input} (member : event ∈ releaseInputs injector) :
    ∃ code, event.effect = some (code, false) ∧ Tracked injector code := by
  rcases List.mem_append.mp member with ofKey | ofButton
  · obtain ⟨key, pressed, rfl⟩ := List.mem_map.mp ofKey
    exact ⟨keyCode key, keyInput_effect key false, .inl ⟨key, mem_toList.mp pressed, rfl⟩⟩
  · obtain ⟨button, pressed, rfl⟩ := List.mem_map.mp ofButton
    exact ⟨.button button, mouseButtonInput_effect button false, .inr ⟨button, mem_toList.mp pressed, rfl⟩⟩

theorem InputInjector.Tracked.releaseInputs {code : InputCode} (tracked : Tracked injector code) :
    ∃ event ∈ releaseInputs injector, event.effect = some (code, false) := by
  rcases tracked with ⟨key, pressed, rfl⟩ | ⟨button, pressed, rfl⟩
  · refine ⟨_, List.mem_append_left _ (List.mem_map_of_mem (mem_toList.mpr pressed)), ?_⟩
    exact keyInput_effect key false
  · refine ⟨_, List.mem_append_right _ (List.mem_map_of_mem (mem_toList.mpr pressed)), ?_⟩
    exact mouseButtonInput_effect button false

/-- The releases of a batch, or of a part of it, leave down what none of them releases. -/
theorem mem_foldl_delivered {events : List Input} {code : InputCode} (releases : events ⊆ releaseInputs injector)
    (held : code ∈ events.foldl delivered down) :
    code ∈ down ∧ ∀ event ∈ events, event.effect ≠ some (code, false) := by
  induction events generalizing down with
  | nil => exact ⟨held, by simp⟩
  | cons event rest ih =>
    obtain ⟨first, others⟩ := List.cons_subset.mp releases
    obtain ⟨_, effect, -⟩ := mem_releaseInputs first
    obtain ⟨before, untouched⟩ := ih others held
    rw [delivered, effect] at before
    obtain ⟨different, before⟩ := Finset.mem_erase.mp before
    refine ⟨before, fun other member => ?_⟩
    rcases List.mem_cons.mp member with rfl | later
    · rw [effect]
      intro same
      cases same
      exact different rfl
    · exact untouched other later

/-- What is down is tracked, and what is tracked has been pressed. -/
structure InjectorHistory (past : List InjectorCall) (state : InjectorState) : Prop where
  held : ∀ code ∈ state.down, Tracked state.injector code
  pressed : ∀ code, Tracked state.injector code → ∃ call ∈ past, pressedCode call = some code

section Histories

variable {past : List InjectorCall} {state after : InjectorState} {input : InjectorInput}
  {reply : Except InputError Unit}

theorem InjectorHistory.released (history : InjectorHistory past state) :
    (releaseInputs state.injector).foldl delivered state.down = ∅ := by
  refine Finset.eq_empty_of_forall_notMem fun code held => ?_
  obtain ⟨before, others⟩ := mem_foldl_delivered (List.Subset.refl _) held
  obtain ⟨event, member, effect⟩ := (history.held code before).releaseInputs
  exact others event member effect

/-- A call keeps the account of the keys and buttons: what the system holds down is tracked, and what is tracked was
pressed by a call of the run. Of a partial send only the events that were sent count. -/
theorem InjectorHistory.step (history : InjectorHistory past state) (taken : Partial step state input reply after) :
    InjectorHistory (past ++ [⟨state, input, reply, after⟩]) after := by
  have earlier : ∀ code, Tracked state.injector code →
      ∃ call ∈ past ++ [⟨state, input, reply, after⟩], pressedCode call = some code := by
    intro code tracked
    obtain ⟨call, member, presses⟩ := history.pressed code tracked
    exact ⟨call, List.mem_append_left _ member, presses⟩
  cases step_injects taken with
  | unchanged => exact ⟨history.held, earlier⟩
  | @pressed _ _ tracking code _ presses tracks =>
    refine ⟨?_, ?_⟩
    · intro other held
      rcases Finset.mem_insert.mp held with same | before
      · exact (tracks other).mpr (.inl same)
      · exact (tracks other).mpr (.inr (history.held other before))
    · intro other tracked
      rcases (tracks other).mp tracked with rfl | before
      · exact ⟨_, List.mem_concat_self, presses⟩
      · exact earlier other before
  | @released _ _ tracking code _ fewer keeps =>
    refine ⟨?_, fun other tracked => earlier other (fewer other tracked)⟩
    intro other held
    obtain ⟨different, before⟩ := Finset.mem_erase.mp held
    exact keeps other different (history.held other before)
  | releasedAll =>
    refine ⟨?_, ?_⟩
    · intro code held
      simp only [history.released] at held
      cases held
    · intro code tracked
      simp [Tracked] at tracked
  | releaseFailed _ inserted =>
    refine ⟨?_, earlier⟩
    intro code held
    exact history.held code (mem_foldl_delivered (List.take_subset inserted _) held).1

theorem InjectorHistory.of_run (run : Run (Partial InjectorState.step) {} past state) : InjectorHistory past state := by
  induction run with
  | start => exact ⟨by simp, by simp [Tracked]⟩
  | next _ taken ih => exact ih.step taken

/-- A release that succeeds leaves nothing down. -/
theorem InjectorHistory.release_ok (history : InjectorHistory past state) (release : input.isRelease)
    (taken : Partial InjectorState.step state input (.ok ()) after) : after.down = ∅ := by
  cases step_injects taken with
  | unchanged other => simp [release] at other
  | pressed other => simp [release] at other
  | released other => simp [release] at other
  | releasedAll => exact history.released

/-- A release that fails keeps the tracking. -/
theorem release_error {error : InputError} (release : input.isRelease)
    (taken : Partial step state input (.error error) after) : after.injector = state.injector := by
  cases step_injects taken with
  | unchanged | releaseFailed => rfl
  | pressed other => simp [release] at other
  | released other => simp [release] at other

/-- A release whose whole batch is inserted succeeds. -/
theorem releaseAll_succeeds {willing : Nat} (fits : (releaseInputs state.injector).length < 2 ^ 32)
    (all : (releaseInputs state.injector).length ≤ willing) :
    ∃ after, Partial step state (.releaseAll willing) (.ok ()) after := by
  simp only [Foundation.Partial, step, releaseAll]
  split
  · exact ⟨state, rfl⟩
  · rw [send, sendInputs]
    split
    · exact ⟨_, rfl⟩
    · rw [if_neg (by omega)]
      simp only [Nat.min_eq_right all, ne_eq, not_true_eq_false, if_false]
      exact ⟨_, rfl⟩

end Histories

/-- Whatever is injected and however much of it the system inserts: every code that is down has an entry; after a
release that succeeds nothing is down; a release that fails keeps all entries, and a later one that succeeds, as it
does once the system inserts its whole batch, leaves nothing down; and the events of a release are releases of codes
that were pressed before. -/
theorem no_stuck_input {past : List InjectorCall} {state : InjectorState}
    (run : Run (Partial InjectorState.step) {} past state) :
    (∀ code ∈ state.down, Tracked state.injector code) ∧
      (∀ call ∈ past, call.input.isRelease → call.reply = .ok () → call.after.down = ∅) ∧
      (∀ call ∈ past, call.input.isRelease → ∀ error, call.reply = .error error →
        call.after.injector = call.before.injector ∧
          (∀ input after, input.isRelease → call.after.step input = some (after, .ok ()) → after.down = ∅) ∧
          ∀ willing, (InjectorState.releaseInputs call.after.injector).length < 2 ^ 32 →
            (InjectorState.releaseInputs call.after.injector).length ≤ willing →
            ∃ after, call.after.step (.releaseAll willing) = some (after, .ok ())) ∧
      ∀ earlier call later, past = earlier ++ call :: later → call.input.isRelease →
        ∀ event ∈ InjectorState.releaseInputs call.before.injector,
          ∃ code, event.effect = some (code, false) ∧ ∃ press ∈ earlier, pressedCode press = some code := by
  refine ⟨(InjectorHistory.of_run run).held, ?_, ?_, ?_⟩
  · intro call member release ok
    obtain ⟨_, _, _, reached, taken, _⟩ := run.of_mem member
    rw [ok] at taken
    exact (InjectorHistory.of_run reached).release_ok release taken
  · intro call member release error failed
    obtain ⟨_, _, _, reached, taken, _⟩ := run.of_mem member
    have next := InjectorHistory.of_run (reached.next taken)
    rw [failed] at taken
    exact ⟨release_error release taken, fun input after again succeeds => next.release_ok again succeeds,
      fun willing fits all => releaseAll_succeeds fits all⟩
  · intro earlier call later cut _ event member
    obtain ⟨reached, -, -⟩ := run.split cut
    obtain ⟨code, effect, tracked⟩ := mem_releaseInputs member
    exact ⟨code, effect, (InjectorHistory.of_run reached).pressed code tracked⟩

/-- Two keys with one scan code and a button, of which a first release reaches one event only. -/
def sampleInput : List InjectorInput :=
  [.apply (.isInputDesktop 1) 1 (.key 0x41 0x1e true false), .apply (.isInputDesktop 1) 1 (.key 0x42 0x1e true false),
    .apply (.isInputDesktop 1) 1 (.mouseButton .x2 true), .apply (.isInputDesktop 1) 1 (.key 0x41 0x1e false false),
    .apply (.isInputDesktop 1) 0 (.key 0x41 0x1e true false), .apply (.isInputDesktop 0) 9 .releaseAll,
    .releaseAll 1, .releaseAll 9]

/-- Two releases fail before one succeeds, and after it nothing is held down. -/
theorem no_stuck_input_aliased :
    ∃ past state, Run (Partial InjectorState.step) {} past state ∧ past.map (·.input) = sampleInput ∧
      past.map (fun call => (call.reply, call.after.down.card)) =
        [(.ok (), 1), (.ok (), 1), (.ok (), 2), (.ok (), 1), (.error (.sendInput 1 0), 1),
          (.error (.desktopUnavailable .notInputDesktop), 1), (.error (.sendInput 2 1), 1), (.ok (), 0)] ∧
      ∀ call ∈ past, call.input.isRelease → call.reply = .ok () → call.after.down = ∅ := by
  have traced : (tryCalls step {} sampleInput).map
      (fun made => made.1.map fun call => (call.reply, call.after.down.card)) =
        some [(.ok (), 1), (.ok (), 1), (.ok (), 2), (.ok (), 1), (.error (.sendInput 1 0), 1),
          (.error (.desktopUnavailable .notInputDesktop), 1), (.error (.sendInput 2 1), 1), (.ok (), 0)] := by
    decide +kernel
  obtain ⟨past, state, run, inputs, replies⟩ := Run.of_traced traced
  exact ⟨past, state, run, inputs, replies, (no_stuck_input run).2.1⟩

end ClassMesh
