import Mathlib.Data.List.Induction
import SwarmChart.Http.Query
import SwarmChart.Proofs.Decimal.Grammar

/-!
# What a query chooses

The pairs of a query are gone through one after the other, and the first fault ends it. What comes
of them is said here without that order. A query is sound if each of the two choices is made at most
once and by a value that can be read (`Sound`), and a sound query selects a length (`Selects`). The
reader of pairs accepts the sound queries and no others (`WindowChoice.exists_ofPairs_iff`), and
what it makes of them depends on the values given for the two keys alone
(`WindowChoice.toOption_ofPairs_of_perm`).

Only which fault is told depends on the order: it is the first one (`FirstFault`,
`WindowChoice.ofPairs_eq_error_iff`). Pairs with other keys matter nowhere
(`WindowChoice.ofPairs_filter`).
-/

set_option autoImplicit false

namespace SwarmChart.Http

/-- The values given for a key, in the order of the pairs. -/
def valuesOf (key : String) (pairs : List (String × String)) : List String :=
  (pairs.filter fun pair => pair.1 = key).map Prod.snd

/-- The pair has a say in the window. -/
def choosesWindow (pair : String × String) : Bool := pair.1 = "window" || pair.1 = "range"

/-- Both choices are made at most once, a length by a number and a preset by its name. -/
structure Sound (pairs : List (String × String)) : Prop where
  windowOnce : (valuesOf "window" pairs).length ≤ 1
  rangeOnce : (valuesOf "range" pairs).length ≤ 1
  window : ∀ value ∈ valuesOf "window" pairs, ∃ seconds, Decimal.WritesNumber value.toList seconds
  range : ∀ value ∈ valuesOf "range" pairs, ∃ preset : Window.Preset, preset.name = value

/-- The length in seconds that pairs select: the one given, else that of the preset, else the
default. -/
inductive Selects (pairs : List (String × String)) (default : Float) : Float → Prop
  | window {value : String} {seconds : Float} (given : value ∈ valuesOf "window" pairs)
      (writes : Decimal.WritesNumber value.toList seconds) : Selects pairs default seconds
  | range {preset : Window.Preset} (noWindow : valuesOf "window" pairs = [])
      (given : preset.name ∈ valuesOf "range" pairs) : Selects pairs default preset.seconds
  | default (noWindow : valuesOf "window" pairs = []) (noRange : valuesOf "range" pairs = []) :
      Selects pairs default default

/-- What is wrong with a pair behind others: it makes a choice again, or its value cannot be read.
A choice made again is wrong whatever its value. -/
inductive FaultBehind (before : List (String × String)) : String × String → QueryError → Prop
  | repeated {key value : String} (chooses : key = "window" ∨ key = "range")
      (again : valuesOf key before ≠ []) : FaultBehind before (key, value) (.repeated key)
  | notNumber {value : String} (first : valuesOf "window" before = [])
      (noNumber : ∀ seconds, ¬ Decimal.WritesNumber value.toList seconds) :
      FaultBehind before ("window", value) (.notNumber value)
  | unknownPreset {value : String} (first : valuesOf "range" before = [])
      (unknown : ∀ preset : Window.Preset, preset.name ≠ value) :
      FaultBehind before ("range", value) (.unknownPreset value)

/-- The first fault of pairs in their order: nothing is wrong with the pairs before it. -/
def FirstFault (pairs : List (String × String)) (error : QueryError) : Prop :=
  ∃ before pair rest, pairs = before ++ pair :: rest ∧ Sound before ∧
    FaultBehind before pair error

/-- The number of seconds that a value writes. -/
def readSeconds (value : String) : Option Float := Decimal.readNumeral value.toList

/-- The seconds that are read are those that the value writes. -/
theorem readSeconds_eq_some_iff {value : String} {seconds : Float} :
    readSeconds value = some seconds ↔ Decimal.WritesNumber value.toList seconds :=
  Decimal.readNumeral_eq_some_iff

theorem isSome_readSeconds_iff {value : String} :
    (readSeconds value).isSome ↔ ∃ seconds, Decimal.WritesNumber value.toList seconds := by
  rw [Option.isSome_iff_exists]
  exact exists_congr fun _ => readSeconds_eq_some_iff

theorem isSome_ofName?_iff {value : String} :
    (Window.Preset.ofName? value).isSome ↔ ∃ preset : Window.Preset, preset.name = value := by
  rw [Option.isSome_iff_exists]
  constructor
  · rintro ⟨preset, found⟩
    exact ⟨preset, Window.Preset.name_of_ofName? found⟩
  · rintro ⟨preset, rfl⟩
    exact ⟨preset, Window.Preset.ofName?_name preset⟩

/-! ## Values of a key -/

section Values

variable {α : Type} (read : String → Option α)

/-- What is given by the values of a key: nothing without a value, and nothing that counts if there
are several or if the only one cannot be read. -/
def given? : List String → Option (Option α)
  | [] => some none
  | [value] => (read value).map some
  | _ => none

/-- One more value of a key is the first one or one too many. -/
theorem given?_concat (values : List String) (value : String) :
    given? read (values ++ [value]) =
      (given? read values).bind fun before =>
        if before.isSome then none else (read value).map some := by
  match values with
  | [] => rfl
  | [earlier] =>
    rw [given?]
    cases read earlier <;> rfl
  | _ :: _ :: _ => rfl

variable {read}

/-- The values of a key are no fault if there is one at most and it can be read. -/
theorem isSome_given?_iff {values : List String} :
    (given? read values).isSome ↔
      values.length ≤ 1 ∧ ∀ value ∈ values, (read value).isSome := by
  match values with
  | [] => simp [given?]
  | [value] => simp [given?]
  | _ :: _ :: _ => simp [given?]

/-- Nothing is given exactly if there are no values. -/
theorem eq_none_iff_of_given? {values : List String} {found? : Option α}
    (h : given? read values = some found?) : found? = none ↔ values = [] := by
  match values with
  | [] =>
    cases h
    simp
  | [value] =>
    obtain ⟨found, -, rfl⟩ := Option.map_eq_some_iff.1 h
    simp
  | _ :: _ :: _ => cases h

/-- What is given is what one of the values reads as. -/
theorem eq_some_iff_of_given? {values : List String} {found? : Option α}
    (h : given? read values = some found?) (found : α) :
    found? = some found ↔ ∃ value ∈ values, read value = some found := by
  match values with
  | [] =>
    cases h
    simp
  | [value] =>
    obtain ⟨only, reads, rfl⟩ := Option.map_eq_some_iff.1 h
    simp [reads]
  | _ :: _ :: _ => cases h

/-- Of several values the order does not matter, since none of them counts. -/
theorem given?_of_perm {values others : List String} (perm : values.Perm others) :
    given? read values = given? read others := by
  match values with
  | [] => rw [perm.nil_eq]
  | [value] => rw [List.singleton_perm.1 perm]
  | first :: second :: rest =>
    have length := perm.length_eq
    match others with
    | [] => cases length
    | [other] => cases length
    | _ :: _ :: _ => rfl

end Values

theorem valuesOf_concat (key : String) (pairs : List (String × String)) (pair : String × String) :
    valuesOf key (pairs ++ [pair]) =
      if pair.1 = key then valuesOf key pairs ++ [pair.2] else valuesOf key pairs := by
  rw [valuesOf, List.filter_append, List.map_append]
  by_cases same : pair.1 = key <;> simp [same, valuesOf]

/-- The values of the two keys are still there without the pairs of other keys. -/
theorem valuesOf_filter {key : String} (chooses : key = "window" ∨ key = "range")
    (pairs : List (String × String)) :
    valuesOf key (pairs.filter choosesWindow) = valuesOf key pairs := by
  have kept : ∀ pair : String × String, (decide (pair.1 = key) && choosesWindow pair) =
      decide (pair.1 = key) := by
    intro pair
    by_cases same : pair.1 = key
    · rcases chooses with rfl | rfl <;> simp [choosesWindow, same]
    · simp [same]
  rw [valuesOf, List.filter_filter, valuesOf]
  simp only [kept]

theorem valuesOf_perm {pairs others : List (String × String)} (key : String)
    (perm : pairs.Perm others) : (valuesOf key pairs).Perm (valuesOf key others) :=
  (perm.filter _).map _

/-! ## Reading the pairs -/

namespace WindowChoice

variable {pairs others : List (String × String)} {choice : WindowChoice}

/-- One more pair adds to the values of its key, and to the choice if that is the first of them. -/
theorem toOption_add (choice : WindowChoice) (pair : String × String) :
    (choice.add pair).toOption =
      if pair.1 = "window" then
        if choice.window.isSome then none
        else (readSeconds pair.2).map fun seconds => { choice with window := some seconds }
      else if pair.1 = "range" then
        if choice.range.isSome then none
        else (Window.Preset.ofName? pair.2).map fun preset => { choice with range := some preset }
      else some choice := by
  obtain ⟨key, value⟩ := pair
  unfold add readSeconds
  dsimp only
  split
  · split
    · rfl
    · cases Decimal.readNumeral value.toList <;> rfl
  split
  · split
    · rfl
    · cases Window.Preset.ofName? value <;> rfl
  · rfl

/-- A pair with another key leaves every choice as it is. -/
theorem add_of_not_choosesWindow (choice : WindowChoice) {pair : String × String}
    (other : choosesWindow pair = false) : choice.add pair = .ok choice := by
  simp only [choosesWindow, Bool.or_eq_false_iff, decide_eq_false_iff_not] at other
  exact (if_neg other.1).trans (if_neg other.2)

theorem toOption_bind {α β : Type} (result : Except QueryError α)
    (next : α → Except QueryError β) :
    (result >>= next).toOption = result.toOption.bind fun value => (next value).toOption := by
  cases result <;> rfl

/-- What the pairs say, from the values of the two keys. -/
theorem toOption_ofPairs (pairs : List (String × String)) :
    (ofPairs pairs).toOption =
      (given? readSeconds (valuesOf "window" pairs)).bind fun window =>
        (given? Window.Preset.ofName? (valuesOf "range" pairs)).map fun range =>
          ⟨window, range⟩ := by
  induction pairs using List.reverseRecOn with
  | nil => rfl
  | append_singleton pairs pair ih =>
    have step : ofPairs (pairs ++ [pair]) = ofPairs pairs >>= fun choice => choice.add pair := by
      simp only [ofPairs, List.foldlM_append, List.foldlM_cons, List.foldlM_nil, bind_pure]
    rw [step, toOption_bind, ih, valuesOf_concat, valuesOf_concat]
    simp only [toOption_add]
    -- The last pair adds to the values of its key; what they gave so far decides what it does.
    by_cases isWindow : pair.1 = "window"
    · have notRange : pair.1 ≠ "range" := by
        rw [isWindow]
        decide
      simp only [if_pos isWindow, if_neg notRange, given?_concat]
      cases given? readSeconds (valuesOf "window" pairs) with
      | none => rfl
      | some window =>
        cases given? Window.Preset.ofName? (valuesOf "range" pairs) with
        | none =>
          cases window <;> cases readSeconds pair.2 <;> rfl
        | some range =>
          cases window <;> cases readSeconds pair.2 <;> rfl
    by_cases isRange : pair.1 = "range"
    · simp only [if_neg isWindow, if_pos isRange, given?_concat]
      cases given? readSeconds (valuesOf "window" pairs) with
      | none => rfl
      | some window =>
        cases given? Window.Preset.ofName? (valuesOf "range" pairs) with
        | none => rfl
        | some range =>
          cases range <;> cases Window.Preset.ofName? pair.2 <;> rfl
    · simp only [if_neg isWindow, if_neg isRange]
      cases given? readSeconds (valuesOf "window" pairs) with
      | none => rfl
      | some window => cases given? Window.Preset.ofName? (valuesOf "range" pairs) <;> rfl

/-- Soundness looks at the values of each key, as the reader of pairs does. -/
theorem sound_iff_isSome (pairs : List (String × String)) :
    Sound pairs ↔ (ofPairs pairs).toOption.isSome := by
  have given : (ofPairs pairs).toOption.isSome ↔
      (given? readSeconds (valuesOf "window" pairs)).isSome ∧
        (given? Window.Preset.ofName? (valuesOf "range" pairs)).isSome := by
    rw [toOption_ofPairs]
    cases given? readSeconds (valuesOf "window" pairs) <;> simp
  rw [given, isSome_given?_iff, isSome_given?_iff]
  simp only [isSome_readSeconds_iff, isSome_ofName?_iff]
  constructor
  · intro sound
    exact ⟨⟨sound.windowOnce, sound.window⟩, sound.rangeOnce, sound.range⟩
  · rintro ⟨⟨windowOnce, window⟩, rangeOnce, range⟩
    exact ⟨windowOnce, rangeOnce, window, range⟩

/-- Pairs are accepted if they are sound, and only then. -/
theorem exists_ofPairs_iff (pairs : List (String × String)) :
    (∃ choice, ofPairs pairs = .ok choice) ↔ Sound pairs := by
  rw [sound_iff_isSome]
  cases ofPairs pairs <;> simp [Except.toOption]

/-- The choice that was accepted is what the values of each key give. -/
theorem given?_of_accepted (accepted : ofPairs pairs = .ok choice) :
    given? readSeconds (valuesOf "window" pairs) = some choice.window ∧
      given? Window.Preset.ofName? (valuesOf "range" pairs) = some choice.range := by
  have given := toOption_ofPairs pairs
  rw [accepted] at given
  obtain ⟨window, windowGiven, rest⟩ := Option.bind_eq_some_iff.1 given.symm
  obtain ⟨range, rangeGiven, rfl⟩ := Option.map_eq_some_iff.1 rest
  exact ⟨windowGiven, rangeGiven⟩

/-- The length of an accepted choice is the one that its pairs select, and they select no other. -/
theorem selects_iff (accepted : ofPairs pairs = .ok choice) {default seconds : Float} :
    Selects pairs default seconds ↔ seconds = choice.seconds default := by
  obtain ⟨window, range⟩ := given?_of_accepted accepted
  constructor
  -- The choice and the values tell alike which of the two was given.
  · intro selects
    cases selects with
    | window among writes =>
      have chosen := (eq_some_iff_of_given? window _).2
        ⟨_, among, readSeconds_eq_some_iff.2 writes⟩
      rw [WindowChoice.seconds, chosen]
    | range noWindow among =>
      have unset := (eq_none_iff_of_given? window).2 noWindow
      have chosen := (eq_some_iff_of_given? range _).2 ⟨_, among, Window.Preset.ofName?_name _⟩
      rw [WindowChoice.seconds, unset, chosen]
    | default noWindow noRange =>
      have noLength := (eq_none_iff_of_given? window).2 noWindow
      have noPreset := (eq_none_iff_of_given? range).2 noRange
      rw [WindowChoice.seconds, noLength, noPreset]
  · rintro rfl
    rw [WindowChoice.seconds]
    cases length : choice.window with
    | some seconds =>
      obtain ⟨value, among, reads⟩ := (eq_some_iff_of_given? window seconds).1 length
      exact .window among (readSeconds_eq_some_iff.1 reads)
    | none =>
      have noWindow := (eq_none_iff_of_given? window).1 length
      cases preset : choice.range with
      | some chosen =>
        obtain ⟨value, among, found⟩ := (eq_some_iff_of_given? range chosen).1 preset
        rw [← Window.Preset.name_of_ofName? found] at among
        exact .range noWindow among
      | none => exact .default noWindow ((eq_none_iff_of_given? range).1 preset)

/-- Neither the order of the pairs nor pairs with other keys change what is said. -/
theorem toOption_ofPairs_of_perm
    (perm : (pairs.filter choosesWindow).Perm (others.filter choosesWindow)) :
    (ofPairs pairs).toOption = (ofPairs others).toOption := by
  have same : ∀ key, key = "window" ∨ key = "range" →
      (valuesOf key pairs).Perm (valuesOf key others) := by
    intro key chooses
    rw [← valuesOf_filter chooses pairs, ← valuesOf_filter chooses others]
    exact valuesOf_perm key perm
  rw [toOption_ofPairs, toOption_ofPairs, given?_of_perm (same "window" (Or.inl rfl)),
    given?_of_perm (same "range" (Or.inr rfl))]

/-- Whether pairs are sound does not depend on their order. -/
theorem sound_iff_of_perm
    (perm : (pairs.filter choosesWindow).Perm (others.filter choosesWindow)) :
    Sound pairs ↔ Sound others := by
  rw [sound_iff_isSome, sound_iff_isSome, toOption_ofPairs_of_perm perm]

/-- Sound pairs say the same in every order. -/
theorem ofPairs_of_perm (sound : Sound pairs)
    (perm : (pairs.filter choosesWindow).Perm (others.filter choosesWindow)) :
    ofPairs pairs = ofPairs others := by
  obtain ⟨choice, read⟩ := (exists_ofPairs_iff pairs).2 sound
  obtain ⟨other, readOthers⟩ := (exists_ofPairs_iff others).2 ((sound_iff_of_perm perm).1 sound)
  have same := toOption_ofPairs_of_perm perm
  rw [read, readOthers] at same
  cases same
  rw [read, readOthers]

/-! ## The first fault -/

section Behind

variable (accepted : ofPairs pairs = .ok choice) {pair : String × String} {error : QueryError}

include accepted

theorem window_eq_none_iff : choice.window = none ↔ valuesOf "window" pairs = [] :=
  eq_none_iff_of_given? (given?_of_accepted accepted).1

theorem range_eq_none_iff : choice.range = none ↔ valuesOf "range" pairs = [] :=
  eq_none_iff_of_given? (given?_of_accepted accepted).2

/-- A pair that is wrong is refused for what is wrong with it. -/
theorem add_of_faultBehind (fault : FaultBehind pairs pair error) :
    choice.add pair = .error error := by
  cases fault with
  | @repeated key value chooses again =>
    rcases chooses with rfl | rfl
    · have given : choice.window.isSome := by
        rwa [Option.isSome_iff_ne_none, ne_eq, window_eq_none_iff accepted]
      simp [add, given]
    · have given : choice.range.isSome := by
        rwa [Option.isSome_iff_ne_none, ne_eq, range_eq_none_iff accepted]
      simp [add, given]
  | @notNumber value first noNumber =>
    have unreadable : Decimal.readNumeral value.toList = none :=
      Option.eq_none_iff_forall_ne_some.2 fun seconds read =>
        noNumber seconds (Decimal.writesNumber_of_readNumeral read)
    simp [add, (window_eq_none_iff accepted).2 first, unreadable]
  | @unknownPreset value first unknown =>
    have unnamed : Window.Preset.ofName? value = none :=
      Option.eq_none_iff_forall_ne_some.2 fun preset found =>
        unknown preset (Window.Preset.name_of_ofName? found)
    simp [add, (range_eq_none_iff accepted).2 first, unnamed]

/-- A length is refused because one was given before or because it is no number. -/
theorem faultBehind_of_add_window {value : String}
    (refused : choice.add ("window", value) = .error error) :
    FaultBehind pairs ("window", value) error := by
  rw [add, if_pos rfl] at refused
  split at refused
  · next given =>
    cases refused
    rw [Option.isSome_iff_ne_none, ne_eq, window_eq_none_iff accepted] at given
    exact .repeated (Or.inl rfl) given
  next unset =>
  rw [Option.not_isSome_iff_eq_none, window_eq_none_iff accepted] at unset
  split at refused
  · cases refused
  next unreadable =>
  cases refused
  refine .notNumber unset fun seconds writes => ?_
  cases unreadable.symm.trans (Decimal.readNumeral_of_writesNumber writes)

/-- A preset is refused because one was given before or because there is none of its name. -/
theorem faultBehind_of_add_range {value : String}
    (refused : choice.add ("range", value) = .error error) :
    FaultBehind pairs ("range", value) error := by
  rw [add, if_neg (by decide), if_pos rfl] at refused
  split at refused
  · next given =>
    cases refused
    rw [Option.isSome_iff_ne_none, ne_eq, range_eq_none_iff accepted] at given
    exact .repeated (Or.inr rfl) given
  next unset =>
  rw [Option.not_isSome_iff_eq_none, range_eq_none_iff accepted] at unset
  split at refused
  · cases refused
  next unknown =>
  cases refused
  refine .unknownPreset unset ?_
  rintro preset rfl
  cases unknown.symm.trans (Window.Preset.ofName?_name preset)

/-- A pair is refused for nothing that is not wrong with it. -/
theorem faultBehind_of_add (refused : choice.add pair = .error error) :
    FaultBehind pairs pair error := by
  obtain ⟨key, value⟩ := pair
  by_cases isWindow : key = "window"
  · subst isWindow
    exact faultBehind_of_add_window accepted refused
  by_cases isRange : key = "range"
  · subst isRange
    exact faultBehind_of_add_range accepted refused
  · have other : choosesWindow (key, value) = false := by simp [choosesWindow, isWindow, isRange]
    rw [add_of_not_choosesWindow choice other] at refused
    cases refused

end Behind

/-- A fold that may stop stops at the first step that is refused. -/
theorem foldlM_eq_error_iff {α β ε : Type} {step : α → β → Except ε α} {start : α} {list : List β}
    {error : ε} :
    list.foldlM step start = .error error ↔
      ∃ before item rest reached, list = before ++ item :: rest ∧
        before.foldlM step start = .ok reached ∧ step reached item = .error error := by
  constructor
  · intro stopped
    -- The steps before the refused one lead away from the start, so it is generalized.
    induction list generalizing start with
    | nil => cases stopped
    | cons item rest ih =>
      rw [List.foldlM_cons] at stopped
      cases taken : step start item with
      | error fault =>
        rw [taken] at stopped
        cases stopped
        exact ⟨[], item, rest, start, rfl, rfl, taken⟩
      | ok next =>
        rw [taken] at stopped
        obtain ⟨before, last, after, reached, rfl, run, refused⟩ := ih stopped
        refine ⟨item :: before, last, after, reached, rfl, ?_, refused⟩
        rw [List.foldlM_cons, taken]
        exact run
  · rintro ⟨before, item, rest, reached, rfl, run, refused⟩
    rw [List.foldlM_append, run]
    show List.foldlM step reached (item :: rest) = .error error
    rw [List.foldlM_cons, refused]
    rfl

/-- Pairs are refused for their first fault. -/
theorem ofPairs_eq_error_iff {error : QueryError} :
    ofPairs pairs = .error error ↔ FirstFault pairs error := by
  rw [ofPairs, foldlM_eq_error_iff]
  constructor
  · rintro ⟨before, pair, rest, choice, parts, accepted, refused⟩
    exact ⟨before, pair, rest, parts, (exists_ofPairs_iff before).1 ⟨choice, accepted⟩,
      faultBehind_of_add accepted refused⟩
  · rintro ⟨before, pair, rest, parts, sound, fault⟩
    obtain ⟨choice, accepted⟩ := (exists_ofPairs_iff before).2 sound
    exact ⟨before, pair, rest, choice, parts, accepted, add_of_faultBehind accepted fault⟩

/-- Where something is wrong, there is something that is wrong first. -/
theorem exists_firstFault (unsound : ¬ Sound pairs) : ∃ error, FirstFault pairs error := by
  cases read : ofPairs pairs with
  | error error => exact ⟨error, ofPairs_eq_error_iff.1 read⟩
  | ok choice => exact absurd ((exists_ofPairs_iff pairs).1 ⟨choice, read⟩) unsound

/-! ## Other pairs -/

/-- Pairs with other keys change nothing, be it a choice or a fault. -/
theorem ofPairs_filter (pairs : List (String × String)) :
    ofPairs (pairs.filter choosesWindow) = ofPairs pairs := by
  suffices stepwise : ∀ choice,
      (pairs.filter choosesWindow).foldlM add choice = pairs.foldlM add choice from stepwise unset
  induction pairs with
  | nil => exact fun _ => rfl
  | cons pair pairs ih =>
    intro choice
    cases chooses : choosesWindow pair with
    | true =>
      rw [List.filter_cons_of_pos chooses, List.foldlM_cons, List.foldlM_cons]
      cases choice.add pair with
      | error error => rfl
      | ok next => exact ih next
    | false =>
      rw [List.filter_cons_of_neg (Bool.eq_false_iff.1 chooses), List.foldlM_cons,
        add_of_not_choosesWindow choice chooses]
      exact ih choice

end WindowChoice

end SwarmChart.Http
