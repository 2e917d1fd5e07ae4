import SwarmChart.Json.Reader
import SwarmChart.Proofs.Json.Cut

/-!
# The depth of a value that is being read

A token that the reader of a value takes is written correctly, and it changes the number of open
containers as its kind says. The value is complete only when none is open
(`Reading.follows_of_step`).
-/

set_option autoImplicit false

namespace SwarmChart.Json

/-! ## Faults in a token -/

/-- Pieces in front of a fault are never joined to a text. -/
theorem StringText.assembleFrom_some (joined : List Char) (fault : Fault) (pieces : List Piece)
    (text : List Char) : assembleFrom joined (some fault) pieces ≠ .ok text := by
  -- The joining ends at a fault of its own or at the one that ended the string.
  fun_induction assembleFrom joined (some fault) pieces <;> simp_all

namespace Reading

theorem exists_of_map {α β : Type} {f : α → β} {result : Except Fault α} {value : β}
    (h : result.map f = .ok value) : ∃ taken, result = .ok taken ∧ f taken = value := by
  cases result with
  | error fault => cases h
  | ok taken =>
    cases h
    exact ⟨taken, rfl, rfl⟩

/-- A text is taken only from a string that is closed. -/
theorem moves_of_text {care : Care} {written : StringText.Written} {result : String}
    (h : text care written = .ok result) (depth : Nat) :
    (Token.string written).Moves depth depth := by
  obtain ⟨pieces, fault⟩ := written
  cases fault with
  | none => exact .string
  | some fault =>
    cases care with
    | kept =>
      obtain ⟨joined, assembled, -⟩ := exists_of_map h
      exact absurd assembled (StringText.assembleFrom_some [] fault pieces joined)
    | passed => cases h

theorem moves_of_number {care : Care} {written : Except Fault Numeral} {result : Json}
    (h : number care written = .ok result) (depth : Nat) :
    (Token.number written).Moves depth depth := by
  cases written with
  | ok numeral => exact .number
  | error fault => cases care <;> cases h

/-! ## Depth -/

/-- The number of containers that are open inside the value. -/
def depth (reading : Reading) : Nat := reading.containers.length

/-- The value is complete only if no container is open. -/
def Settled (reading : Reading) : Prop :=
  ∀ value, reading.position = .done value → reading.containers = []

/-- The token is written correctly and takes one reading to the other, as far as depth goes. -/
def Follows (reading : Reading) (token : Token) (next : Reading) : Prop :=
  token.Moves reading.depth next.depth ∧ next.Settled

variable {reading next : Reading} {token : Token}

/-- Handing over a complete value leaves the open containers open. -/
theorem depth_deliver (reading : Reading) (value : Json) :
    (reading.deliver value).depth = reading.depth := by
  unfold deliver
  split
  · rfl
  · next around found => simp [depth, found]
  · next around found => simp [depth, found]

/-- A value handed over completes the whole only outside all containers. -/
theorem settled_deliver (reading : Reading) (value : Json) : (reading.deliver value).Settled := by
  unfold deliver
  split
  · next none => exact fun _ _ => none
  · exact fun _ complete => nomatch complete
  · exact fun _ complete => nomatch complete

/-- A token that is a whole value leaves the depth as it is. -/
theorem follows_deliver {value : Json} (moves : token.Moves reading.depth reading.depth) :
    Follows reading token (reading.deliver value) := by
  refine ⟨?_, settled_deliver reading value⟩
  rw [depth_deliver]
  exact moves

/-- A token that opens a container goes one deeper. -/
theorem follows_of_push {frame : Frame} {position : Position}
    (h : reading.push frame position = .ok next) (open_position : ∀ value, position ≠ .done value)
    (moves : token.Moves reading.depth (reading.depth + 1)) : Follows reading token next := by
  unfold push at h
  split at h
  · cases h
  · cases h
    exact ⟨moves, fun value complete => absurd complete (open_position value)⟩

/-- Whatever begins a value moves the depth as its token does. -/
theorem follows_of_beginValue (h : reading.beginValue token = .ok next) :
    Follows reading token next := by
  cases token with
  | openArray => exact follows_of_push h (fun _ => nofun) .openArray
  | openObject => exact follows_of_push h (fun _ => nofun) .openObject
  | word value =>
    obtain ⟨taken, rfl, rfl⟩ := exists_of_map h
    exact follows_deliver .word
  | number written =>
    obtain ⟨taken, found, rfl⟩ := exists_of_map h
    exact follows_deliver (moves_of_number found _)
  | string written =>
    obtain ⟨taken, found, rfl⟩ := exists_of_map h
    exact follows_deliver (moves_of_text found _)
  | closeArray => cases h
  | closeObject => cases h
  | colon => cases h
  | comma => cases h
  | stray => cases h

theorem follows_of_closeArray (h : reading.closeArray = .ok next) :
    Follows reading .closeArray next := by
  unfold closeArray at h
  split at h
  · next items around found =>
    cases h
    refine ⟨?_, settled_deliver _ _⟩
    rw [depth_deliver, depth, found]
    exact .closeArray
  · cases h

theorem follows_of_closeObject (h : reading.closeObject = .ok next) :
    Follows reading .closeObject next := by
  unfold closeObject at h
  split at h
  · next members key around found =>
    cases h
    refine ⟨?_, settled_deliver _ _⟩
    rw [depth_deliver, depth, found]
    exact .closeObject
  · cases h

theorem follows_of_beginMember (h : reading.beginMember token = .ok next) :
    Follows reading token next := by
  unfold beginMember at h
  split at h
  · next written members key around found =>
    obtain ⟨taken, read, rfl⟩ := exists_of_map h
    refine ⟨?_, fun _ complete => nomatch complete⟩
    rw [depth, found]
    exact moves_of_text read _
  · cases h

theorem follows_of_comma (h : reading.comma = .ok next) : Follows reading .comma next := by
  unfold comma at h
  split at h
  · cases h
    exact ⟨.comma, fun _ complete => nomatch complete⟩
  · cases h
    exact ⟨.comma, fun _ complete => nomatch complete⟩
  · cases h

/-- What the reader of a value takes is written correctly and changes the depth as it should. -/
theorem follows_of_step (h : reading.step token = .ok next) : Follows reading token next := by
  unfold step at h
  split at h
  · exact follows_of_closeArray h
  · exact follows_of_beginValue h
  · exact follows_of_beginValue h
  · exact follows_of_closeObject h
  · exact follows_of_beginMember h
  · exact follows_of_beginMember h
  · cases h
    exact ⟨.colon, fun _ complete => nomatch complete⟩
  · exact follows_of_comma h
  · exact follows_of_closeArray h
  · exact follows_of_closeObject h
  · cases h

end Reading

end SwarmChart.Json
