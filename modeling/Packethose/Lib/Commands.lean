import Mathlib.Data.List.Basic

set_option autoImplicit false

-- Programs that run external commands one after another. Any command may fail,
-- and one that fails has no effect.
namespace Commands

variable {Kernel Command Result : Type}

structure World (Kernel Command : Type) where
  kernel : Kernel
  issued : List Command

structure Machine (Kernel Command Result : Type) where
  effect : Command → Kernel → Kernel
  answer : Nat → Result
  succeeded : Result → Bool

section Running

variable (m : Machine Kernel Command Result)

def issue (w : World Kernel Command) (c : Command) : World Kernel Command × Result :=
  let result := m.answer w.issued.length
  (⟨if m.succeeded result then m.effect c w.kernel else w.kernel, w.issued ++ [c]⟩, result)

def issueAll : List Command → World Kernel Command → World Kernel Command × List Result
  | [], w => (w, [])
  | c :: rest, w =>
      let (next, result) := issue m w c
      let (final, results) := issueAll rest next
      (final, result :: results)

def issueUntil : List Command → World Kernel Command → World Kernel Command × Option Result
  | [], w => (w, none)
  | c :: rest, w =>
      let (next, result) := issue m w c
      if m.succeeded result then issueUntil rest next else (next, some result)

def reissue (w : World Kernel Command) (commands : List Command) : World Kernel Command :=
  commands.foldl (fun w c => (issue m w c).1) w

def Genuine (before : Kernel) (w : World Kernel Command) : Prop := reissue m ⟨before, []⟩ w.issued = w

def faithful (permits : Kernel → Command → Bool) : World Kernel Command → List Command → Bool
  | _, [] => true
  | w, c :: rest => (m.succeeded (m.answer w.issued.length) == permits w.kernel c) && faithful permits (issue m w c).1 rest

structure Confined (allowed : Command → Prop) (keeps : Kernel → Prop) (w : World Kernel Command) : Prop where
  issued : ∀ c ∈ w.issued, allowed c
  kernel : keeps w.kernel

variable {allowed : Command → Prop} {keeps : Kernel → Prop}

theorem issue_confined (kept : ∀ c, allowed c → ∀ k, keeps k → keeps (m.effect c k)) (w : World Kernel Command)
    (confined : Confined allowed keeps w) (c : Command) (permitted : allowed c) :
    Confined allowed keeps (issue m w c).1 := by
  constructor
  · intro other member
    rcases List.mem_append.mp member with earlier | last
    · exact confined.issued other earlier
    · exact List.mem_singleton.mp last ▸ permitted
  · unfold issue
    by_cases done : m.succeeded (m.answer w.issued.length) = true
    · simpa [done] using kept c permitted w.kernel confined.kernel
    · simpa [done] using confined.kernel

theorem issue_all_confined (kept : ∀ c, allowed c → ∀ k, keeps k → keeps (m.effect c k)) (commands : List Command)
    (permitted : ∀ c ∈ commands, allowed c) (w : World Kernel Command) (confined : Confined allowed keeps w) :
    Confined allowed keeps (issueAll m commands w).1 := by
  induction commands generalizing w with
  | nil => exact confined
  | cons c rest ih =>
      have next := issue_confined m kept w confined c (permitted c (by simp))
      exact ih (fun other member => permitted other (by simp [member])) _ next

theorem issue_until_confined (kept : ∀ c, allowed c → ∀ k, keeps k → keeps (m.effect c k)) (commands : List Command)
    (permitted : ∀ c ∈ commands, allowed c) (w : World Kernel Command) (confined : Confined allowed keeps w) :
    Confined allowed keeps (issueUntil m commands w).1 := by
  induction commands generalizing w with
  | nil => exact confined
  | cons c rest ih =>
      have next := issue_confined m kept w confined c (permitted c (by simp))
      unfold issueUntil
      dsimp only
      split
      · exact ih (fun other member => permitted other (by simp [member])) _ next
      · exact next

theorem issue_all_issued (commands : List Command) (w : World Kernel Command) :
    (issueAll m commands w).1.issued = w.issued ++ commands := by
  induction commands generalizing w with
  | nil => simp [issueAll]
  | cons c rest ih => simp [issueAll, ih, issue]

theorem issue_all_refused (commands : List Command) (w : World Kernel Command)
    (refused : ∀ position, w.issued.length ≤ position → m.succeeded (m.answer position) = false) :
    (issueAll m commands w).1.kernel = w.kernel := by
  induction commands generalizing w with
  | nil => rfl
  | cons c rest ih =>
      have first : (issue m w c).1.kernel = w.kernel := by simp [issue, refused w.issued.length]
      rw [← first]
      exact ih (issue m w c).1 fun position bound => refused position (by simp [issue] at bound; omega)

theorem issue_until_ends (commands : List Command) (w : World Kernel Command) :
    ∃ done rest, commands = done ++ rest ∧
      (∀ position < done.length, m.succeeded (m.answer (w.issued.length + position)) = true) ∧
      ((rest = [] ∧ issueUntil m commands w = (reissue m w done, none)) ∨
        ∃ c later, rest = c :: later ∧ m.succeeded (m.answer (w.issued.length + done.length)) = false ∧
          issueUntil m commands w = ((issue m (reissue m w done) c).1, some (m.answer (w.issued.length + done.length)))) := by
  induction commands generalizing w with
  | nil => exact ⟨[], [], rfl, by simp, .inl ⟨rfl, rfl⟩⟩
  | cons c rest ih =>
      by_cases passed : m.succeeded (m.answer w.issued.length) = true
      · obtain ⟨done, remaining, split, succeeded, ended⟩ := ih (issue m w c).1
        have shifted : ∀ position, (issue m w c).1.issued.length + position = w.issued.length + (position + 1) := by
          intro position
          simp only [issue, List.length_append, List.length_singleton]
          omega
        have continued : issueUntil m (c :: rest) w = issueUntil m rest (issue m w c).1 := by
          rw [issueUntil]
          exact if_pos passed
        refine ⟨c :: done, remaining, by rw [split, List.cons_append], fun position bound => ?_, ?_⟩
        · cases position with
          | zero => exact passed
          | succ position =>
              rw [← shifted]
              exact succeeded position (by simpa using bound)
        · rw [continued, List.length_cons, ← shifted]
          exact ended
      · have stopped : issueUntil m (c :: rest) w = ((issue m w c).1, some (m.answer w.issued.length)) := by
          rw [issueUntil]
          exact if_neg passed
        exact ⟨[], c :: rest, rfl, by simp, .inr ⟨c, rest, rfl, by simpa using passed, stopped⟩⟩

section Faithful

variable {before : Kernel} {permits : Kernel → Command → Bool}

theorem reissue_issued (commands : List Command) (w : World Kernel Command) :
    (reissue m w commands).issued = w.issued ++ commands := by
  induction commands generalizing w with
  | nil => simp [reissue]
  | cons c rest ih =>
      rw [reissue, List.foldl_cons, ← reissue, ih]
      simp [issue]

theorem issue_genuine {w : World Kernel Command} (genuine : Genuine m before w) (c : Command) :
    Genuine m before (issue m w c).1 := by
  have again : reissue m ⟨before, []⟩ (w.issued ++ [c]) = (issue m (reissue m ⟨before, []⟩ w.issued) c).1 := by
    simp [reissue]
  rw [Genuine, show (issue m w c).1.issued = w.issued ++ [c] from rfl, again, genuine]

theorem reissue_genuine (commands : List Command) {w : World Kernel Command} (genuine : Genuine m before w) :
    Genuine m before (reissue m w commands) := by
  induction commands generalizing w with
  | nil => exact genuine
  | cons c rest ih => exact ih (issue_genuine m genuine c)

theorem faithful_append (w : World Kernel Command) (first second : List Command) :
    faithful m permits w (first ++ second) = (faithful m permits w first && faithful m permits (reissue m w first) second) := by
  induction first generalizing w with
  | nil => simp [faithful, reissue]
  | cons c rest ih => simp only [List.cons_append, faithful, ih, reissue, List.foldl_cons, Bool.and_assoc]

theorem faithful_issued {w final : World Kernel Command} (genuine : Genuine m before w) (c : Command)
    (continued : w.issued ++ [c] <+: final.issued) (honest : faithful m permits ⟨before, []⟩ final.issued = true) :
    m.succeeded (m.answer w.issued.length) = permits w.kernel c := by
  obtain ⟨rest, whole⟩ := continued
  rw [← whole, List.append_assoc, faithful_append, genuine, Bool.and_eq_true] at honest
  have here := honest.2
  simp only [List.singleton_append, faithful, Bool.and_eq_true, beq_iff_eq] at here
  exact here.1

theorem reissue_faithful (commands : List Command) (w : World Kernel Command) (honest : faithful m permits w commands = true) :
    (reissue m w commands).kernel = commands.foldl (fun k c => if permits k c then m.effect c k else k) w.kernel := by
  induction commands generalizing w with
  | nil => rfl
  | cons c rest ih =>
      simp only [faithful, Bool.and_eq_true, beq_iff_eq] at honest
      have next := ih (issue m w c).1 honest.2
      rw [reissue, List.foldl_cons, ← reissue, next, List.foldl_cons]
      simp [issue, honest.1]

theorem faithful_take (w : World Kernel Command) (commands : List Command) (count : Nat)
    (honest : faithful m permits w commands = true) : faithful m permits w (commands.take count) = true := by
  rw [← List.take_append_drop count commands, faithful_append, Bool.and_eq_true] at honest
  exact honest.1

end Faithful

theorem issue_all_reissue (commands : List Command) (w : World Kernel Command) : (issueAll m commands w).1 = reissue m w commands := by
  induction commands generalizing w with
  | nil => rfl
  | cons c rest ih => exact ih (issue m w c).1

end Running

end Commands
