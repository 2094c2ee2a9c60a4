/-
# Workers and the flag

Files that are scanned at the same time wait for a worker.  A worker that takes a file looks at the
flag once; it passes the file over if the flag is set, and scans it otherwise.  Files are done in
any order, whatever the order in which they were taken.  Between any two of these steps the flag may
be set, and it stays set.

`Pool` is the state of such a scan and `Pool.Step` one step of it.  Nothing is said about the number
of workers: a step for more of them is a step here as well.  Every run keeps the files together, and
no worker has seen a set flag while the flag is not set (`Pool.Sound`).
-/
import Conformance.Files.Path
import Mathlib.Data.List.Perm.Basic
import Mathlib.Logic.Relation
import Mathlib.Tactic

namespace Conformance

/-- Files that are scanned at the same time, and the flag. -/
structure Pool where
  /-- The files that wait for a worker. -/
  waiting : List Path
  /-- The files that workers have taken, each with what its worker saw of the flag. -/
  taken : List (Path × Bool)
  /-- The files that are done, in that order, each with what its worker saw of the flag. -/
  done : List (Path × Bool)
  /-- Whether the flag is set. -/
  isSet : Bool
  deriving DecidableEq, Repr

namespace Pool

/-- The state in which all files wait. -/
def start (paths : List Path) (isSet : Bool) : Pool :=
  ⟨paths, [], [], isSet⟩

/-- Whether all files are done. -/
def Finished (pool : Pool) : Prop :=
  pool.waiting = [] ∧ pool.taken = []

instance (pool : Pool) : Decidable pool.Finished :=
  inferInstanceAs (Decidable (_ ∧ _))

/-- One step of the workers, or of whoever sets the flag. -/
inductive Step : Pool → Pool → Prop
  /-- The flag is set. -/
  | set (pool : Pool) : Step pool { pool with isSet := true }
  /-- A worker takes a file and looks at the flag. -/
  | take {waiting waiting' : List Path} (p : Path) (taken done : List (Path × Bool)) (isSet : Bool)
      (h : waiting.Perm (p :: waiting')) :
      Step ⟨waiting, taken, done, isSet⟩ ⟨waiting', (p, isSet) :: taken, done, isSet⟩
  /-- A file is done. -/
  | complete (waiting : List Path) {taken taken' : List (Path × Bool)} (e : Path × Bool)
      (done : List (Path × Bool)) (isSet : Bool) (h : taken.Perm (e :: taken')) :
      Step ⟨waiting, taken, done, isSet⟩ ⟨waiting, taken', done ++ [e], isSet⟩

/-- The files of a pool, wherever they stand. -/
def paths (pool : Pool) : List Path :=
  pool.waiting ++ pool.taken.map (·.1) ++ pool.done.map (·.1)

/-- What every state of a run has: all the files, and a flag that is set if a worker saw it set. -/
structure Sound (paths : List Path) (pool : Pool) : Prop where
  /-- The files are those of the scan. -/
  files : pool.paths.Perm paths
  /-- What was seen is still so. -/
  seen : ∀ e ∈ pool.taken ++ pool.done, e.2 = true → pool.isSet = true

lemma sound_start (paths : List Path) (isSet : Bool) : Sound paths (start paths isSet) where
  files := by simp [Pool.paths, start]
  seen := by simp [start]

/-- A step moves a file or none. -/
lemma Step.paths_perm {pool pool' : Pool} (h : Step pool pool') : pool'.paths.Perm pool.paths := by
  cases h with
  | set pool => exact List.Perm.refl _
  | @take waiting waiting' p taken done isSet h =>
    have hmove : (waiting' ++ p :: taken.map (·.1)).Perm (waiting ++ taken.map (·.1)) :=
      List.perm_middle.trans (h.symm.append_right _)
    exact hmove.append_right _
  | @complete waiting taken taken' e done isSet h =>
    have htaken : (taken'.map (·.1) ++ (done.map (·.1) ++ [e.1])).Perm
        (taken.map (·.1) ++ done.map (·.1)) := by
      rw [← List.append_assoc]
      refine (List.perm_append_singleton _ _).trans ?_
      exact (h.map (·.1)).symm.append_right _
    simpa only [Pool.paths, List.append_assoc, List.map_append, List.map_cons, List.map_nil]
      using htaken.append_left waiting

/-- What a worker sees is so when it sees it. -/
lemma Step.seen {pool pool' : Pool} (h : Step pool pool')
    (hseen : ∀ e ∈ pool.taken ++ pool.done, e.2 = true → pool.isSet = true) :
    ∀ e ∈ pool'.taken ++ pool'.done, e.2 = true → pool'.isSet = true := by
  cases h with
  | set pool => exact fun _ _ _ => rfl
  | take p taken done isSet h =>
    intro e he htrue
    rcases List.mem_cons.1 he with rfl | he
    · exact htrue
    · exact hseen e he htrue
  | @complete waiting taken taken' e done isSet h =>
    intro e' he' htrue
    refine hseen e' ?_ htrue
    have hmem : e' ∈ taken' ∨ e' ∈ done ∨ e' = e := by simpa using he'
    rw [List.mem_append, h.mem_iff, List.mem_cons]
    tauto

lemma Sound.step {paths : List Path} {pool pool' : Pool} (hsound : Sound paths pool)
    (h : Step pool pool') : Sound paths pool' where
  files := h.paths_perm.trans hsound.files
  seen := h.seen hsound.seen

lemma Sound.run {paths : List Path} {pool pool' : Pool} (hsound : Sound paths pool)
    (h : Relation.ReflTransGen Step pool pool') : Sound paths pool' := by
  induction h with
  | refl => exact hsound
  | tail _ hstep ih => exact ih.step hstep

/-- When all files are done, they are the files of the scan in some order. -/
lemma Sound.done_perm {paths : List Path} {pool : Pool} (hsound : Sound paths pool)
    (h : pool.Finished) : (pool.done.map (·.1)).Perm paths := by
  have hfiles := hsound.files
  rwa [Pool.paths, h.1, h.2, List.map_nil, List.nil_append, List.nil_append] at hfiles

end Pool
end Conformance
