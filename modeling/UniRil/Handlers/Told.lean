import UniRil.Handlers.Rules

/-!
# Answers with the codes of one file

Some error codes are given by one file only. An answer with such a code is kept beside the globals of the file, and a
token is told what stands there as it is told what stands in the log.
-/

namespace UniRil.Handlers

open Flows
open AtTok (Line)

/-- The codes that RIL_Errno does not list. -/
inductive OwnErrno
  | SMS_SEND_FAIL_RETRY
  | MODEM_ERR
  deriving DecidableEq

/-- The globals of a file, and the answers with its own codes. -/
structure Further (γ : Type) where
  file : γ
  completed : List (RIL_Token × OwnErrno)

variable {γ ε α : Type}

def completeWith (t : RIL_Token) (e : OwnErrno) : Handler (Further γ) ε Unit :=
  modifyGlobals fun g => { g with completed := g.completed ++ [(t, e)] }

def getFile : Handler (Further γ) ε γ := do
  let g ← getGlobals
  pure g.file

def modifyFile (f : γ → γ) : Handler (Further γ) ε Unit := modifyGlobals fun g => { g with file := f g.file }

/-- How often the request was answered. -/
def told (t : RIL_Token) (w : World (Further γ)) : Nat :=
  w.completions t + w.globals.completed.countP fun c => c.1 = t

/-- The handler comes back, and the request was answered once more. -/
def Tells (t : RIL_Token) (m : Handler (Further γ) Empty α) (w : World (Further γ)) : Prop :=
  wp m (fun _ w' => told t w' = told t w + 1) (fun _ _ => False) w

/-! ## Rules -/

section

variable (t : RIL_Token) (w : World (Further γ)) (cmd : Line) (h : Nat)

@[simp] theorem told_sends : told t (w.sends cmd) = told t w := by simp [told]
@[simp] theorem told_gives : told t w.gives = told t w := by simp [told]
@[simp] theorem told_reads : told t (w.reads h) = told t w := by simp [told]
@[simp] theorem told_asks : told t w.asks = told t w := by simp [told]
@[simp] theorem told_frees : told t (w.frees h) = told t w := by simp [told]

theorem told_note (e : Event) : told t (w.note e) = told t w + if e.completes t then 1 else 0 := by
  simp [told]
  omega

@[simp] theorem told_complete (t' : RIL_Token) (e : RIL_Errno) (response : Payload) :
    told t (w.note (.RIL_onRequestComplete t' e response)) = told t w + if t' = t then 1 else 0 := by
  simp [told_note]

@[simp] theorem told_unsolicited (code : Unsolicited) :
    told t (w.note (.RIL_onUnsolicitedResponse code)) = told t w := by
  simp [told_note]

@[simp] theorem told_unsolicitedText (code : Unsolicited) (text : Line) :
    told t (w.note (.RIL_onUnsolicitedText code text)) = told t w := by
  simp [told_note]

end

section

variable {Q : Unit → World (Further γ) → Prop} {E : Exit ε → World (Further γ) → Prop} {w : World (Further γ)}

@[simp ↓] theorem wp_getFile {Q : γ → World (Further γ) → Prop} : wp getFile Q E w ↔ Q w.globals.file w := by
  simp [getFile]

/-- The file goes on, and what it has told stays told. -/
@[simp ↓] theorem wp_modifyFile (f : γ → γ) :
    wp (modifyFile f) Q E w ↔ Q ⟨⟩ (w.setGlobals fun g => { g with file := f g.file }) := by
  rw [modifyFile, wp_modifyGlobals]

@[simp] theorem told_modifyFile (t : RIL_Token) (f : γ → γ) :
    told t (w.setGlobals fun g => { g with file := f g.file }) = told t w := by
  simp [told]

theorem wp_completeWith (t : RIL_Token) (e : OwnErrno) :
    wp (completeWith t e) Q E w ↔ Q ⟨⟩ (w.setGlobals fun g => { g with completed := g.completed ++ [(t, e)] }) := by
  rw [completeWith, wp_modifyGlobals]

@[simp] theorem told_completeWith (t t' : RIL_Token) (e : OwnErrno) :
    told t (w.setGlobals fun g => { g with completed := g.completed ++ [(t', e)] }) =
      told t w + if t' = t then 1 else 0 := by
  simp [told, List.countP_append, List.countP_cons]
  omega

attribute [simp ↓] wp_completeWith

end

end UniRil.Handlers
