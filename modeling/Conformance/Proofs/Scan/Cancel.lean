/-
# No report of a part of the files

A scan that is stopped by the flag makes no report.  It looks at the flag after the last file, and a
flag that was set for a file is still set then.  So a scan is cancelled, or it is the scan that is
never cancelled: the results that reach the report are those of all files.

One file after the other, a scan of `k` files with `s` similarity rules looks at the flag
`k + s + 2` times.  Where the flag is first set at one of these looks, the scan stops there
(`StopsWith`), unless something fails before that fails without the flag as well; a message can
(`Scanner.fault_before_set_flag`).
-/
import Conformance.Proofs.Scan.Pool
import Conformance.Proofs.Scan.Schedule

namespace Conformance

/-! ## The first look at a set flag -/

/-- The flag is set at a look and at none before. -/
structure CancelFlag.FirstSet (flag : CancelFlag) (n : Nat) : Prop where
  /-- It is not set before. -/
  before : ∀ i < n, flag i = false
  /-- It is set then. -/
  set : flag n = true

/-- Of some looks at the flag there is a first that finds it set, or none does. -/
lemma CancelFlag.unset_or_firstSet (flag : CancelFlag) (n : Nat) :
    (∀ i < n, flag i = false) ∨ ∃ k < n, flag.FirstSet k := by
  induction n with
  | zero => exact .inl fun i hi => absurd hi (Nat.not_lt_zero i)
  | succ n ih =>
    rcases ih with hunset | ⟨k, hk, hfirst⟩
    · cases hn : flag n with
      | false => exact .inl fun i hi => (Nat.lt_succ_iff_lt_or_eq.1 hi).elim (hunset i) (· ▸ hn)
      | true => exact .inr ⟨n, Nat.lt_succ_self n, hunset, hn⟩
    · exact .inr ⟨k, Nat.lt_succ_of_lt hk, hfirst⟩

lemma CancelFlag.FirstSet.since {flag : CancelFlag} {k n : Nat} (h : flag.FirstSet (k + n)) :
    (flag.since k).FirstSet n where
  before i hi := h.before (k + i) (by omega)
  set := h.set

lemma CancelFlag.FirstSet.since_zero {flag : CancelFlag} {n : Nat} (h : flag.FirstSet n) :
    (flag.since 0).FirstSet n :=
  CancelFlag.FirstSet.since (by rwa [Nat.zero_add])

/-- The first look of all passed. -/
lemma CancelFlag.FirstSet.tail {flag : CancelFlag} {look n : Nat}
    (h : (flag.since look).FirstSet (n + 1)) : (flag.since (look + 1)).FirstSet n := by
  have hsince : (flag.since look).since 1 = flag.since (look + 1) := by
    funext i
    simp only [CancelFlag.since, Nat.add_assoc]
  rw [Nat.add_comm] at h
  exact hsince ▸ h.since

section Stops

variable {α β : Type} {c : Fault}

/-- A run stops with a fault, unless it fails as another run does. -/
def StopsWith (c : Fault) (x y : Except Fault α) : Prop :=
  x = .error c ∨ ∃ f, x = .error f ∧ y = .error f

lemma stopsWith_error (c : Fault) (y : Except Fault α) : StopsWith c (.error c) y :=
  .inl rfl

/-- A run may stop after steps that both take. -/
lemma stopsWith_bind {x : Except Fault α} {g g' : α → Except Fault β}
    (h : ∀ a, x = .ok a → StopsWith c (g a) (g' a)) : StopsWith c (x >>= g) (x >>= g') := by
  cases x with
  | error f => exact .inr ⟨f, rfl, rfl⟩
  | ok a => exact h a rfl

/-- Nothing follows when a run stops. -/
lemma StopsWith.bind {x y : Except Fault α} (h : StopsWith c x y) (g g' : α → Except Fault β) :
    StopsWith c (x >>= g) (y >>= g') := by
  rcases h with hx | ⟨f, hx, hy⟩
  · exact .inl (by rw [hx, error_bind])
  · exact .inr ⟨f, by rw [hx, error_bind], by rw [hy, error_bind]⟩

lemma StopsWith.eq_error_or_eq {x y : Except Fault α} (h : StopsWith c x y) :
    x = .error c ∨ x = y := by
  rcases h with hx | ⟨f, hx, hy⟩
  · exact .inl hx
  · exact .inr (hx.trans hy.symm)

end Stops

namespace Scanner

/-! ## Looks at the flag -/

lemma checkFlag_of_unset {flag : CancelFlag} {look : Nat} (h : flag look = false)
    (done total : Nat) : checkFlag flag look done total = .ok () := by
  rw [checkFlag, h]
  rfl

lemma checkFlag_of_set {flag : CancelFlag} {look : Nat} (h : flag look = true)
    (done total : Nat) : checkFlag flag look done total = .error (.cancelled done total) := by
  rw [checkFlag, h]
  rfl

section Looks

variable [Host] [m : Memory]

/-- While the flag is not set, the pairs are those of a scan that is never cancelled. -/
lemma compare_of_unset {flag : CancelFlag} (done total : Nat) (ds : List Source.Declaration)
    {look : Nat} {sims : List (Rule × Similarity)}
    (h : ∀ i < sims.length, flag (look + i) = false) :
    compare flag done total ds look sims = compare .never done total ds look sims := by
  induction sims generalizing look with
  | nil => rfl
  | cons sim sims ih =>
    have hrest : ∀ i < sims.length, flag (look + 1 + i) = false := by
      intro i hi
      rw [Nat.add_assoc]
      exact h (1 + i) (by simp only [List.length_cons]; omega)
    have hfirst : flag look = false := h 0 (by simp)
    have hnever : checkFlag .never look done total = .ok () := checkFlag_of_unset rfl done total
    rw [compare, compare, checkFlag_of_unset hfirst done total, hnever, ih hrest]

/-- The pairs are not found when the flag is set before one of the similarity rules. -/
lemma compare_stops {flag : CancelFlag} (done total : Nat) (ds : List Source.Declaration)
    {look n : Nat} {sims : List (Rule × Similarity)} (hn : n < sims.length)
    (h : (flag.since look).FirstSet n) :
    StopsWith (.cancelled done total) (compare flag done total ds look sims)
      (compare .never done total ds look sims) := by
  induction sims generalizing look n with
  | nil => exact absurd hn (Nat.not_lt_zero n)
  | cons sim sims ih =>
    cases n with
    | zero =>
      rw [compare, checkFlag_of_set (show flag look = true from h.set), error_bind]
      exact stopsWith_error _ _
    | succ n =>
      have hfirst : flag look = false := h.before 0 (Nat.succ_pos n)
      have hnever : checkFlag .never look done total = .ok () := checkFlag_of_unset rfl done total
      rw [compare, compare, checkFlag_of_unset hfirst done total, hnever, ok_bind, ok_bind]
      refine stopsWith_bind fun pairs _ => ?_
      exact (ih (Nat.lt_of_succ_lt_succ hn) h.tail).bind _ _

/-! ## The report -/

/-- While the flag is not set, the report is that of a scan that is never cancelled. -/
lemma finish_of_unset (s : Scanner) {flag : CancelFlag} (total : Nat) (generatedAt : Option Moment)
    (results : List FileResult) (h : ∀ i < s.rules.similarities.length + 2, flag i = false) :
    s.finish flag total generatedAt results = s.finish .never total generatedAt results := by
  have hpairs (ds : List Source.Declaration) :
      compare flag results.length total ds 1 s.rules.similarities
        = compare .never results.length total ds 1 s.rules.similarities :=
    compare_of_unset _ _ _ fun i hi => h (1 + i) (by omega)
  have hfirst : flag 0 = false := h 0 (by omega)
  have hlast : flag (s.rules.similarities.length + 1) = false := h _ (by omega)
  simp only [finish, hpairs, checkFlag, hfirst, hlast]
  rfl

/-- There is no report when the flag is set at one of the looks on the way to it. -/
lemma finish_stops (s : Scanner) {flag : CancelFlag} (total : Nat) (generatedAt : Option Moment)
    (results : List FileResult) {n : Nat} (hn : n < s.rules.similarities.length + 2)
    (h : flag.FirstSet n) :
    StopsWith (.cancelled results.length total) (s.finish flag total generatedAt results)
      (s.finish .never total generatedAt results) := by
  simp only [finish]
  cases n with
  | zero =>
    rw [checkFlag_of_set h.set, error_bind]
    exact stopsWith_error _ _
  | succ n =>
    have hnever (look : Nat) : checkFlag .never look results.length total = .ok () :=
      checkFlag_of_unset rfl _ _
    have hsince : (flag.since 1).FirstSet n := h.since_zero.tail
    rw [checkFlag_of_unset (h.before 0 (Nat.succ_pos n)), hnever 0, ok_bind, ok_bind]
    refine stopsWith_bind fun joint _ => ?_
    -- the look is one before a similarity rule, or the last of all
    rcases Nat.lt_or_ge n s.rules.similarities.length with hbefore | hafter
    · exact (compare_stops _ _ _ hbefore hsince).bind _ _
    · obtain rfl : n = s.rules.similarities.length := by omega
      rw [compare_of_unset _ _ _ hsince.before]
      refine stopsWith_bind fun pairs _ => ?_
      rw [checkFlag_of_set h.set, error_bind]
      exact stopsWith_error _ _

/-- A report is that of a scan that is never cancelled, if there is one. -/
lemma finish_cancelled_or_eq (s : Scanner) (flag : CancelFlag) (total : Nat)
    (generatedAt : Option Moment) (results : List FileResult) :
    ((∃ i < s.rules.similarities.length + 2, flag i = true) ∧
        s.finish flag total generatedAt results = .error (.cancelled results.length total)) ∨
      s.finish flag total generatedAt results = s.finish .never total generatedAt results := by
  rcases flag.unset_or_firstSet (s.rules.similarities.length + 2) with hunset | ⟨n, hn, hfirst⟩
  · exact .inr (s.finish_of_unset total generatedAt results hunset)
  · rcases (s.finish_stops total generatedAt results hn hfirst).eq_error_or_eq with hstop | heq
    · exact .inl ⟨⟨n, hn, hfirst.set⟩, hstop⟩
    · exact .inr heq

/-! ## One file after the other -/

/-- The files before the one for which the flag is set are scanned. -/
lemma scanInTurn_of_firstSet (s : Scanner) (files : FileSystem) {flag : CancelFlag}
    {look n : Nat} {ps : List Path} (hn : n < ps.length) (h : (flag.since look).FirstSet n) :
    s.scanInTurn files flag look ps
      = ((ps.take n).mapM (s.scanFile files)) >>= fun rs => .ok (rs, look + n + 1) := by
  induction ps generalizing look n with
  | nil => exact absurd hn (Nat.not_lt_zero n)
  | cons p ps ih =>
    cases n with
    | zero =>
      have hset : flag look = true := h.set
      rw [scanInTurn, hset]
      rfl
    | succ n =>
      have hfirst : flag look = false := h.before 0 (Nat.succ_pos n)
      have hlooks : look + 1 + n + 1 = look + (n + 1) + 1 := by omega
      rw [scanInTurn, hfirst, if_neg (by simp), ih (Nat.lt_of_succ_lt_succ hn) h.tail, hlooks,
        List.take_succ_cons, List.mapM_cons]
      simp only [bind_assoc]
      rfl

/-- A scan whose flag is set for one of the files stops with the files before it. -/
lemma scan_stops_at_file (s : Scanner) {files : FileSystem} {found : List (String × Path)}
    (hfound : s.discover files = .ok found) {flag : CancelFlag} (hflag : Monotone flag) {n : Nat}
    (hn : n < found.length) (h : flag.FirstSet n) (generatedAt : Option Moment) :
    StopsWith (.cancelled n found.length) (s.scan files flag generatedAt)
      (s.scan files .never generatedAt) := by
  -- the look after the files finds the flag still set
  have hset : flag.since (n + 1) 0 = true := Bool.le_iff_imp.1 (hflag (Nat.le_succ n)) h.set
  have hlength : n < (found.map (·.2)).length := by rwa [List.length_map]
  have hscan : s.scan files flag generatedAt
      = (((found.map (·.2)).take n).mapM (s.scanFile files)) >>= fun rs =>
        s.finish (flag.since (n + 1)) found.length generatedAt rs := by
    rw [scan, hfound, ok_bind, s.scanInTurn_of_firstSet files hlength h.since_zero, bind_assoc,
      Nat.zero_add]
    rfl
  rw [hscan, s.scan_never hfound]
  cases htake : ((found.map (·.2)).take n).mapM (s.scanFile files) with
  | error f => exact .inr ⟨f, rfl, by rw [mapM_take_error htake, error_bind]⟩
  | ok rs =>
    have hdone : rs.length = n := by
      rw [← (mapM_eq_ok_iff.1 htake).length_eq, List.length_take, Nat.min_eq_left hlength.le]
    refine .inl ?_
    rw [ok_bind, finish, checkFlag_of_set hset, hdone]
    rfl

/-- A scan whose flag is first set after the files stops with all of them. -/
lemma scan_stops_after_files (s : Scanner) {files : FileSystem} {found : List (String × Path)}
    (hfound : s.discover files = .ok found) {flag : CancelFlag} {n : Nat}
    (hn : n < s.rules.similarities.length + 2) (h : flag.FirstSet (found.length + n))
    (generatedAt : Option Moment) :
    StopsWith (.cancelled found.length found.length) (s.scan files flag generatedAt)
      (s.scan files .never generatedAt) := by
  rw [s.scan_of_unset hfound (fun i hi => h.before i (by omega)), s.scan_never hfound]
  refine stopsWith_bind fun rs hrs => ?_
  have hdone : rs.length = found.length := by
    rw [← (mapM_eq_ok_iff.1 hrs).length_eq, List.length_map]
  have hfinish := s.finish_stops found.length generatedAt rs hn h.since
  rwa [hdone] at hfinish

/-- A scan stops at the first look that finds the flag set. -/
lemma scan_stops (s : Scanner) {files : FileSystem} {found : List (String × Path)}
    (hfound : s.discover files = .ok found) {flag : CancelFlag} (hflag : Monotone flag) {n : Nat}
    (hn : n < found.length + s.rules.similarities.length + 2) (h : flag.FirstSet n)
    (generatedAt : Option Moment) :
    StopsWith (.cancelled (min n found.length) found.length) (s.scan files flag generatedAt)
      (s.scan files .never generatedAt) := by
  rcases Nat.lt_or_ge n found.length with hfile | hafter
  · rw [Nat.min_eq_left hfile.le]
    exact s.scan_stops_at_file hfound hflag hfile h generatedAt
  · rw [Nat.min_eq_right hafter]
    obtain ⟨j, rfl⟩ := Nat.exists_eq_add_of_le hafter
    exact s.scan_stops_after_files hfound (by omega) h generatedAt

/-- A scan that finds the flag set at none of its looks is the one that is never cancelled. -/
lemma scan_eq_never (s : Scanner) {files : FileSystem} {found : List (String × Path)}
    (hfound : s.discover files = .ok found) {flag : CancelFlag}
    (h : ∀ i < found.length + s.rules.similarities.length + 2, flag i = false)
    (generatedAt : Option Moment) :
    s.scan files flag generatedAt = s.scan files .never generatedAt := by
  rw [s.scan_of_unset hfound (fun i hi => h i (by omega)), s.scan_never hfound]
  refine congrArg _ (funext fun rs => ?_)
  exact s.finish_of_unset _ _ _ fun i hi => h (found.length + i) (by omega)

/-- A scan is cancelled, or it is the one that is never cancelled. -/
lemma scan_cancelled_or_eq (s : Scanner) {files : FileSystem} {found : List (String × Path)}
    (hfound : s.discover files = .ok found) {flag : CancelFlag} (hflag : Monotone flag)
    (generatedAt : Option Moment) :
    (∃ n ≤ found.length, s.scan files flag generatedAt = .error (.cancelled n found.length)) ∨
      s.scan files flag generatedAt = s.scan files .never generatedAt := by
  rcases flag.unset_or_firstSet (found.length + s.rules.similarities.length + 2) with
    hunset | ⟨n, hn, hfirst⟩
  · exact .inr (s.scan_eq_never hfound hunset generatedAt)
  · rcases (s.scan_stops hfound hflag hn hfirst generatedAt).eq_error_or_eq with hstop | heq
    · exact .inl ⟨min n found.length, Nat.min_le_right _ _, hstop⟩
    · exact .inr heq

/-- Results of which a worker left one out make no report. -/
lemma finish_of_seen (s : Scanner) {files : FileSystem} {done : List (Path × Bool)}
    {results : List FileResult} (hresults : s.scanTogether files done = .ok results)
    {flag : CancelFlag} (hset : flag 0 = true) (total : Nat) (generatedAt : Option Moment) :
    ∃ n ≤ done.length, s.finish flag total generatedAt results = .error (.cancelled n total) := by
  refine ⟨results.length, ?_, ?_⟩
  · rw [← (mapM_eq_ok_iff.1 hresults).length_eq]
    exact List.length_filter_le _ _
  · rw [finish, checkFlag_of_set hset]
    rfl

/-- When no worker saw the flag set, the report is made of all files. -/
lemma finish_of_unseen (s : Scanner) {files : FileSystem} {found : List (String × Path)}
    (hfound : s.discover files = .ok found) {done : List (Path × Bool)}
    (hdone : (done.map (·.1)).Perm (found.map (·.2))) (hunseen : ∀ e ∈ done, e.2 = false)
    {results : List FileResult} (hresults : s.scanTogether files done = .ok results)
    (flag : CancelFlag) (generatedAt : Option Moment) :
    ((∃ i < s.rules.similarities.length + 2, flag i = true) ∧
        s.finish flag found.length generatedAt results
          = .error (.cancelled found.length found.length)) ∨
      s.finish flag found.length generatedAt results = s.scan files .never generatedAt := by
  have hpairs : (done.map (·.1)).map (·, false) = done := by
    rw [List.map_map]
    refine (List.map_congr_left fun e he => ?_).trans (List.map_id done)
    exact Prod.ext rfl (hunseen e he).symm
  rw [← hpairs, s.scanTogether_of_unset] at hresults
  obtain ⟨inTurn, hinTurn, hlength, hfinish⟩ := finish_eq_of_perm hfound hdone hresults
  have htotal : inTurn.length = found.length := by
    rw [← (mapM_eq_ok_iff.1 hinTurn).length_eq, List.length_map]
  rw [hfinish, s.scan_never hfound, hinTurn, ok_bind]
  have houtcome := s.finish_cancelled_or_eq flag found.length generatedAt inTurn
  rwa [htotal] at houtcome

/-- However the flag is set between the steps of the workers, a scan is cancelled, or it is the scan
that is never cancelled; or a file cannot be scanned. -/
lemma scanAtOnce_of_run (s : Scanner) {files : FileSystem} {found : List (String × Path)}
    (hfound : s.discover files = .ok found) {isSet : Bool} {pool : Pool}
    (hrun : Relation.ReflTransGen Pool.Step (.start (found.map (·.2)) isSet) pool)
    (hfinished : pool.Finished) {flag : CancelFlag} (hset : pool.isSet = true → flag 0 = true)
    (generatedAt : Option Moment) :
    ((∃ i < s.rules.similarities.length + 2, flag i = true) ∧ ∃ n ≤ found.length,
        s.scanAtOnce files pool.done flag generatedAt = .error (.cancelled n found.length)) ∨
      s.scanAtOnce files pool.done flag generatedAt = s.scan files .never generatedAt ∨
      ∃ e ∈ found, ∃ f, s.scanFile files e.2 = .error f ∧
        s.scanAtOnce files pool.done flag generatedAt = .error f := by
  have hsound := (Pool.sound_start (found.map (·.2)) isSet).run hrun
  have hdone := hsound.done_perm hfinished
  have hlength : pool.done.length = found.length := by simpa using hdone.length_eq
  rw [scanAtOnce, hfound, ok_bind]
  cases hresults : s.scanTogether files pool.done with
  | error f =>
    -- whatever its worker saw of the flag, a file that was scanned is one of those discovered
    obtain ⟨e, he, hf⟩ := exists_of_mapM_error hresults
    have hmem : e.1 ∈ found.map (·.2) :=
      hdone.mem_iff.1 (List.mem_map_of_mem (List.mem_of_mem_filter he))
    obtain ⟨e', he', heq⟩ := List.mem_map.1 hmem
    exact .inr (.inr ⟨e', he', f, heq ▸ hf, rfl⟩)
  | ok results =>
    rw [ok_bind]
    by_cases hseen : ∃ e ∈ pool.done, e.2 = true
    · -- a worker left a file out; what it saw is still so when the report is made
      obtain ⟨e, he, htrue⟩ := hseen
      have hnow := hset (hsound.seen e (List.mem_append_right _ he) htrue)
      have hcancel := s.finish_of_seen hresults hnow found.length generatedAt
      rw [hlength] at hcancel
      exact .inl ⟨⟨0, Nat.succ_pos _, hnow⟩, hcancel⟩
    · have hunseen : ∀ e ∈ pool.done, e.2 = false := by simpa using hseen
      rcases s.finish_of_unseen hfound hdone hunseen hresults flag generatedAt with ⟨hlook, h⟩ | h
      · exact .inl ⟨hlook, found.length, le_rfl, h⟩
      · exact .inr (.inl h)

/-! ## The scan -/

end Looks

section Plain

attribute [local instance] Host.plain Memory.plain

end Plain

end Scanner
end Conformance
