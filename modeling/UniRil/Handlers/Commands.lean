import UniRil.Handlers.Rules

/-!
# Commands, lists, buffers

The commands a handler has sent, the lines of the answer to a command that asks for a list, and texts that are printed
into a buffer piece by piece.
-/

namespace UniRil.Handlers

open Command (isFinalResponseSuccess intermediatesOf)
open AtTok (Line)

/-! ## Commands -/

def Event.command : Event → Option Line
  | .at_send_command cmd => some cmd
  | _ => none

/-- The commands that went out. -/
def commands (log : List Event) : List Line := log.filterMap Event.command

@[simp] theorem commands_nil : commands [] = [] := rfl

@[simp] theorem commands_append (l l' : List Event) : commands (l ++ l') = commands l ++ commands l' :=
  List.filterMap_append

@[simp] theorem commands_send (cmd : Line) (l : List Event) :
    commands (.at_send_command cmd :: l) = cmd :: commands l := rfl

@[simp] theorem commands_complete (t : RIL_Token) (e : RIL_Errno) (response : Payload) (l : List Event) :
    commands (.RIL_onRequestComplete t e response :: l) = commands l := rfl

@[simp] theorem commands_unsolicitedText (code : Unsolicited) (text : Line) (l : List Event) :
    commands (.RIL_onUnsolicitedText code text :: l) = commands l := rfl

section

variable {γ γ' : Type} (w : World γ) (g : γ')

@[simp] theorem log_withGlobals : (w.withGlobals g).log = w.log := rfl

@[simp] theorem allocates_withGlobals : (w.withGlobals g).allocates = w.allocates := rfl

end

/-! ## Lists -/

/-- The lines of a list that was answered with success. -/
def linesOf (responsePrefix : Line) : Answer → Option (List Line)
  | .failed => none
  | .response finalResponse lines =>
    if isFinalResponseSuccess finalResponse then some (intermediatesOf .MULTILINE responsePrefix lines) else none

theorem linesOf_eq_some {responsePrefix : Line} {a : Answer} {lines : List Line} :
    linesOf responsePrefix a = some lines ↔
      ∃ f ls, a = .response f ls ∧ isFinalResponseSuccess f = true ∧
        intermediatesOf .MULTILINE responsePrefix ls = lines := by
  cases a with
  | failed => simp [linesOf]
  | response f ls => simp [linesOf]

theorem linesOf_eq_none {responsePrefix : Line} {a : Answer} :
    linesOf responsePrefix a = none ↔ ∀ f ls, a = .response f ls → isFinalResponseSuccess f = false := by
  cases a with
  | failed => simp [linesOf]
  | response f ls => simp [linesOf]

/-! ## Buffers -/

/-- A piece is cut where the text of all pieces is. -/
theorem snprintf_append (size : Nat) (s t : Line) : snprintf size (snprintf size s ++ t) = snprintf size (s ++ t) := by
  unfold snprintf
  rw [List.take_append, List.take_append, List.take_take, min_self, List.length_take]
  congr 2
  omega

theorem snprintf_of_lt {size : Nat} {s : Line} (h : s.length < size) : snprintf size s = s :=
  List.take_of_length_le (by omega)

end UniRil.Handlers
