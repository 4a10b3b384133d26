import Mathlib.Algebra.Order.BigOperators.Group.List
import Mathlib.Data.List.Count
import UniRil.RequestThreads.Code

/-!
# One dispatch thread and its callers

What a step of a station can do, its invariant, and a measure of the work left.
-/

namespace UniRil.RequestThreads

/-! ## What a step can do -/

/-- The steps of a dispatch thread. -/
inductive Dispatched (served : List ATCmdType) (st : Station) : Station → Prop
  | lock (hpc : st.pc = .lock) (hm : st.mutex = false) :
      Dispatched served st { st with mutex := true, pc := .test served }
  | testNil (hpc : st.pc = .test []) : Dispatched served st { st with pc := .wait }
  | testEmpty {c rem} (hpc : st.pc = .test (c :: rem)) (hc : st.lists c = []) :
      Dispatched served st { st with pc := .test rem }
  | testFound {c rem} (hpc : st.pc = .test (c :: rem)) (hc : st.lists c ≠ []) :
      Dispatched served st { st with pc := .unlock }
  | wait (hpc : st.pc = .wait) : Dispatched served st { st with mutex := false, pc := .blocked }
  | woken (hpc : st.pc = .woken) (hm : st.mutex = false) :
      Dispatched served st { st with mutex := true, pc := .unlock }
  | unlock (hpc : st.pc = .unlock) : Dispatched served st { st with mutex := false, pc := .scan served }
  | scanNil (hpc : st.pc = .scan []) : Dispatched served st { st with pc := .lock }
  | scanEmpty {c rem} (hpc : st.pc = .scan (c :: rem)) (hc : st.lists c = []) :
      Dispatched served st { st with pc := .scan rem }
  | scanFound {c rem} (hpc : st.pc = .scan (c :: rem)) (hc : st.lists c ≠ []) :
      Dispatched served st { st with pc := .pick }
  | pick {c r rest} (hpc : st.pc = .pick) (hpick : pickList st.lists served = some c)
      (hc : st.lists c = r :: rest) : Dispatched served st { st with pc := .execute c r }
  | execute {c r} (hpc : st.pc = .execute c r) : Dispatched served st
      { st with pc := .remove c r, executed := Function.update st.executed c (st.executed c ++ [r]) }
  | remove {c r} (hpc : st.pc = .remove c r) : Dispatched served st
      { st with pc := .scan served, lists := Function.update st.lists c ((st.lists c).erase r) }

/-- The steps of a call of `enqueueRequest`. -/
inductive Called (st : Station) : Station → Prop
  | lock {pre post} (hc : st.callers = pre ++ .inserted :: post) (hm : st.mutex = false) :
      Called st { st with mutex := true, callers := pre ++ .locked :: post }
  | signal {pre post} (hc : st.callers = pre ++ .locked :: post) (hpc : st.pc ≠ .blocked) :
      Called st { st with callers := pre ++ .signalled :: post }
  | wake {pre post} (hc : st.callers = pre ++ .locked :: post) (hpc : st.pc = .blocked) :
      Called st { st with callers := pre ++ .signalled :: post, pc := .woken }
  | unlock {pre post} (hc : st.callers = pre ++ .signalled :: post) :
      Called st { st with mutex := false, callers := pre ++ post }

variable {served : List ATCmdType} {st st' : Station}

theorem dispatch_cases (h : dispatch served st = some st') : Dispatched served st st' := by
  rw [dispatch] at h
  split at h
  · rename_i hpc
    simp only [Option.ite_none_left_eq_some, Option.some.injEq, Bool.not_eq_true] at h
    obtain ⟨hm, rfl⟩ := h
    exact .lock hpc hm
  · rename_i hpc
    obtain rfl := Option.some.inj h
    exact .testNil hpc
  · rename_i c rem hpc
    obtain rfl := Option.some.inj h
    by_cases hc : st.lists c = []
    · simpa [hc] using @Dispatched.testEmpty served st c rem hpc hc
    · simpa [hc] using @Dispatched.testFound served st c rem hpc hc
  · rename_i hpc
    obtain rfl := Option.some.inj h
    exact .wait hpc
  · simp at h
  · rename_i hpc
    simp only [Option.ite_none_left_eq_some, Option.some.injEq, Bool.not_eq_true] at h
    obtain ⟨hm, rfl⟩ := h
    exact .woken hpc hm
  · rename_i hpc
    obtain rfl := Option.some.inj h
    exact .unlock hpc
  · rename_i hpc
    obtain rfl := Option.some.inj h
    exact .scanNil hpc
  · rename_i c rem hpc
    obtain rfl := Option.some.inj h
    by_cases hc : st.lists c = []
    · simpa [hc] using @Dispatched.scanEmpty served st c rem hpc hc
    · simpa [hc] using @Dispatched.scanFound served st c rem hpc hc
  · rename_i hpc
    obtain ⟨c, hpick, h⟩ := Option.bind_eq_some_iff.1 h
    obtain ⟨r, hr, rfl⟩ := Option.map_eq_some_iff.1 h
    obtain ⟨rest, hc⟩ := List.head?_eq_some_iff.1 hr
    exact .pick hpc hpick hc
  · rename_i c r hpc
    obtain rfl := Option.some.inj h
    exact .execute hpc
  · rename_i c r hpc
    obtain rfl := Option.some.inj h
    exact .remove hpc

theorem exists_split_of_getElem? {α : Type*} {l : List α} {i : Nat} {a : α} (h : l[i]? = some a) :
    ∃ pre post, l = pre ++ a :: post ∧ pre.length = i := by
  obtain ⟨hi, rfl⟩ := List.getElem?_eq_some_iff.1 h
  refine ⟨l.take i, l.drop (i + 1), ?_, List.length_take_of_le (Nat.le_of_lt hi)⟩
  rw [List.getElem_cons_drop, List.take_append_drop]

theorem callerStep_cases {i : Nat} (h : callerStep i st = some st') : Called st st' := by
  rw [callerStep] at h
  split at h
  · simp at h
  · rename_i hi
    obtain ⟨pre, post, hc, rfl⟩ := exists_split_of_getElem? hi
    simp only [Option.ite_none_left_eq_some, Option.some.injEq, Bool.not_eq_true] at h
    obtain ⟨hm, rfl⟩ := h
    simpa [hc] using Called.lock hc hm
  · rename_i hi
    obtain ⟨pre, post, hc, rfl⟩ := exists_split_of_getElem? hi
    obtain rfl := Option.some.inj h
    by_cases hpc : st.pc = .blocked
    · simpa [hc, hpc] using Called.wake hc hpc
    · cases hp : st.pc with
      | blocked => exact (hpc hp).elim
      | _ => simpa [hc, hp] using Called.signal hc hpc
  · rename_i hi
    obtain ⟨pre, post, hc, rfl⟩ := exists_split_of_getElem? hi
    obtain rfl := Option.some.inj h
    simpa [hc, List.eraseIdx_append_of_length_le] using Called.unlock hc

/-! ## The invariant -/

/-- The thread holds the dispatch mutex. -/
def Pc.holds : Pc → Bool
  | .test _ | .wait | .unlock => true
  | _ => false

def Caller.holds : Caller → Bool
  | .inserted => false
  | .locked | .signalled => true

/-- The call has still to signal. -/
def Caller.owes : Caller → Bool
  | .inserted | .locked => true
  | .signalled => false

/-- The thread has found the list empty since it took the mutex, and will wait or waits. -/
def Pc.passed (cmdType : ATCmdType) : Pc → Prop
  | .test rem => cmdType ∉ rem
  | .wait | .blocked => True
  | _ => False

structure Inv (served : List ATCmdType) (st : Station) : Prop where
  mutex : st.pc.holds.toNat + st.callers.countP Caller.holds = st.mutex.toNat
  own : ∀ c, st.lists c ≠ [] → c ∈ served
  found : st.pc = .pick → ∃ c, st.lists c ≠ []
  taken : ∀ c r, st.pc = .execute c r ∨ st.pc = .remove c r → ∃ rest, st.lists c = r :: rest
  awake : ∀ c, st.lists c ≠ [] → st.pc.passed c → ∃ k ∈ st.callers, k.owes = true

theorem inv_init : Inv served .init :=
  ⟨rfl, by simp [Station.init], by simp [Station.init], by simp [Station.init], by simp [Station.init]⟩

theorem inv_dispatched (h : Inv served st) (hd : Dispatched served st st') : Inv served st' := by
  obtain ⟨hmutex, hown, hfound, htaken, hawake⟩ := h
  cases hd with
  | lock hpc hm =>
    rw [hpc, hm] at hmutex
    exact ⟨by simpa [Pc.holds] using hmutex, hown, by simp, by simp, fun c hc hnot => absurd (hown c hc) hnot⟩
  | testNil hpc =>
    rw [hpc] at hmutex hawake
    exact ⟨hmutex, hown, by simp, by simp, fun c hc _ => hawake c hc (by simp [Pc.passed])⟩
  | testEmpty hpc he =>
    rw [hpc] at hmutex hawake
    refine ⟨hmutex, hown, by simp, by simp, fun c hc hnot => hawake c hc ?_⟩
    rintro (_ | hmem)
    · exact hc he
    · exact hnot (by assumption)
  | testFound hpc hne =>
    rw [hpc] at hmutex
    exact ⟨hmutex, hown, by simp, by simp, by simp [Pc.passed]⟩
  | wait hpc =>
    rw [hpc] at hmutex hawake
    refine ⟨?_, hown, by simp, by simp, hawake⟩
    have hle := Bool.toNat_le st.mutex
    simp only [Pc.holds, Bool.toNat_true, Bool.toNat_false] at hmutex ⊢
    omega
  | woken hpc hm =>
    rw [hpc, hm] at hmutex
    exact ⟨by simpa [Pc.holds] using hmutex, hown, by simp, by simp, by simp [Pc.passed]⟩
  | unlock hpc =>
    rw [hpc] at hmutex
    refine ⟨?_, hown, by simp, by simp, by simp [Pc.passed]⟩
    have hle := Bool.toNat_le st.mutex
    simp only [Pc.holds, Bool.toNat_true, Bool.toNat_false] at hmutex ⊢
    omega
  | scanNil hpc =>
    rw [hpc] at hmutex
    exact ⟨hmutex, hown, by simp, by simp, by simp [Pc.passed]⟩
  | scanEmpty hpc he =>
    rw [hpc] at hmutex
    exact ⟨hmutex, hown, by simp, by simp, by simp [Pc.passed]⟩
  | scanFound hpc hne =>
    rw [hpc] at hmutex
    exact ⟨hmutex, hown, fun _ => ⟨_, hne⟩, by simp, by simp [Pc.passed]⟩
  | @pick c r rest hpc hpick hc =>
    rw [hpc] at hmutex
    refine ⟨hmutex, hown, by simp, ?_, by simp [Pc.passed]⟩
    simp only [Pc.execute.injEq, reduceCtorEq, or_false]
    rintro _ _ ⟨rfl, rfl⟩
    exact ⟨rest, hc⟩
  | @execute c r hpc =>
    rw [hpc] at hmutex
    refine ⟨hmutex, hown, by simp, ?_, by simp [Pc.passed]⟩
    simp only [Pc.remove.injEq, reduceCtorEq, false_or]
    rintro _ _ ⟨rfl, rfl⟩
    exact htaken c r (Or.inl hpc)
  | @remove c r hpc =>
    rw [hpc] at hmutex
    obtain ⟨rest, hc⟩ := htaken c r (Or.inr hpc)
    refine ⟨hmutex, fun c' hc' => ?_, by simp, by simp, by simp [Pc.passed]⟩
    by_cases heq : c' = c
    · subst heq
      exact hown c' (by simp [hc])
    · exact hown c' (by simpa [Function.update_of_ne heq] using hc')

theorem inv_called (h : Inv served st) (hd : Called st st') : Inv served st' := by
  obtain ⟨hmutex, hown, hfound, htaken, hawake⟩ := h
  cases hd with
  | lock hc hm =>
    rw [hc, hm] at hmutex
    rw [hc] at hawake
    refine ⟨?_, hown, hfound, htaken, fun c hne hp => ?_⟩
    · simp only [List.countP_append, List.countP_cons, Caller.holds, Bool.toNat_false, Bool.toNat_true] at hmutex ⊢
      simp only [Bool.false_eq_true, if_false, if_true] at hmutex ⊢
      omega
    · exact ⟨.locked, by simp, rfl⟩
  | signal hc hpc =>
    rw [hc] at hmutex
    refine ⟨?_, hown, hfound, htaken, fun c hne hp => ?_⟩
    · simpa [List.countP_append, List.countP_cons, Caller.holds] using hmutex
    · -- The caller holds the mutex, so the thread is not between its test and its wait.
      have hle := Bool.toNat_le st.mutex
      simp only [List.countP_append, List.countP_cons, Caller.holds, if_true] at hmutex
      have hnot : st.pc.holds = false := by
        rcases hh : st.pc.holds with _ | _
        · rfl
        · rw [hh] at hmutex
          simp only [Bool.toNat_true] at hmutex
          omega
      cases hp' : st.pc <;> simp_all [Pc.holds, Pc.passed]
  | wake hc hpc =>
    rw [hc, hpc] at hmutex
    refine ⟨?_, hown, by simp, by simp, by simp [Pc.passed]⟩
    simpa [List.countP_append, List.countP_cons, Caller.holds, Pc.holds] using hmutex
  | unlock hc =>
    rw [hc] at hmutex
    have hle := Bool.toNat_le st.mutex
    simp only [List.countP_append, List.countP_cons, Caller.holds, if_true] at hmutex
    refine ⟨?_, hown, hfound, htaken, fun c hne hp => ?_⟩
    · simp only [List.countP_append, Bool.toNat_false]
      omega
    · obtain ⟨k, hk, howes⟩ := hawake c hne hp
      rw [hc] at hk
      refine ⟨k, ?_, howes⟩
      simp only [List.mem_append, List.mem_cons] at hk ⊢
      rcases hk with hk | rfl | hk
      · exact Or.inl hk
      · simp [Caller.owes] at howes
      · exact Or.inr hk

theorem inv_step {a : StationAct} (h : Inv served st) (hs : stationStep served st a = some st') : Inv served st' := by
  cases a with
  | enqueue c r =>
    simp only [stationStep, Option.ite_none_right_eq_some, Option.some.injEq] at hs
    obtain ⟨hmem, rfl⟩ := hs
    obtain ⟨hmutex, hown, hfound, htaken, hawake⟩ := h
    have hne : ∀ c', st.lists c' ≠ [] → Function.update st.lists c (st.lists c ++ [r]) c' ≠ [] := by
      intro c' hc'
      by_cases heq : c' = c
      · subst heq
        simp
      · simpa [Function.update_of_ne heq] using hc'
    refine ⟨by simpa [List.countP_append, Caller.holds] using hmutex, fun c' hc' => ?_, fun hpc => ?_,
      fun c' r' hpc => ?_, fun _ _ _ => ⟨.inserted, by simp, rfl⟩⟩
    · by_cases heq : c' = c
      · rwa [heq]
      · exact hown c' (by simpa [Function.update_of_ne heq] using hc')
    · obtain ⟨c', hc'⟩ := hfound hpc
      exact ⟨c', hne c' hc'⟩
    · obtain ⟨rest, hrest⟩ := htaken c' r' hpc
      by_cases heq : c' = c
      · subst heq
        exact ⟨rest ++ [r], by simp [hrest]⟩
      · exact ⟨rest, by simpa [Function.update_of_ne heq] using hrest⟩
  | move m =>
    cases m with
    | dispatch => exact inv_dispatched h (dispatch_cases hs)
    | caller i => exact inv_called h (callerStep_cases hs)
    | spurious =>
      simp only [stationStep] at hs
      split at hs
      · rename_i hpc
        obtain rfl := Option.some.inj hs
        obtain ⟨hmutex, hown, hfound, htaken, hawake⟩ := h
        rw [hpc] at hmutex
        exact ⟨hmutex, hown, by simp, by simp, by simp [Pc.passed]⟩
      · simp at hs
    | refused =>
      simp only [stationStep] at hs
      split at hs
      · obtain rfl := Option.some.inj hs
        exact h
      · simp at hs

end UniRil.RequestThreads
