/-
# The first use on a line

A usage rule forbids every match of its pattern on a line that is no comment, except for the texts
it allows.  The check looks at the first match on a line only.  If that is not allowed, it is
reported; if it is allowed, the line is passed over with all its other matches
(`RuleSet.check_tellsFirstUses`).  So an allowed use hides a forbidden one behind it on its line
(`RuleSet.allowed_use_hides_next`), and no line is reported without need.
-/
import Conformance.Proofs.Check.Wording
import Conformance.Proofs.Pattern.Occurrences

namespace Conformance

open Source

namespace Usage

/-- The texts on a line that match, from left to right. -/
def uses (u : Usage) (line : String) : List String :=
  (u.pattern.all line.toList).map fun m => String.ofList m.text

/-- What is reported of a line is its first use, unless that is allowed. -/
lemma subject?_eq_some_iff {u : Usage} {heading : RuleHeading} {line subject : String} :
    u.subject? heading line = some subject ↔
      isCommentLine line.toList = false ∧ (u.uses line).head? = some subject ∧
        heading.allows subject = false := by
  rw [uses, List.head?_map, Pattern.head?_all, subject?]
  cases isCommentLine line.toList <;> simp [Option.filter_eq_some_iff]

/-- The violations of a usage rule in a file. -/
structure TellsFirstUses (u : Usage) (r : Rule) (f : FileDeclarations) (vs : List Violation) :
    Prop where
  /-- They follow the lines of the file, and no two of them stand on one line. -/
  ascending : vs.Pairwise fun v w => v.line < w.line
  /-- Each is about a use of the file that is not allowed, the first one on its line. -/
  tells : ∀ v ∈ vs, v.path = f.path ∧ v.ruleId = r.id ∧ ∃ (n : Nat) (line : String),
    f.file.lines[n]? = some line ∧ v.line = n + 1 ∧ (u.uses line).head? = some v.subject ∧
      r.heading.allows v.subject = false
  /-- A line has one just if it is no comment and holds a use that is not allowed, and no allowed
  use comes first. -/
  line_iff : ∀ (n : Nat) (line : String), f.file.lines[n]? = some line →
    ((∃ v ∈ vs, v.line = n + 1) ↔
      isCommentLine line.toList = false ∧ (∃ s ∈ u.uses line, r.heading.allows s = false) ∧
        ∀ s ∈ (u.uses line).head?, r.heading.allows s = false)

/-! ## The drafts of a file -/

variable {u : Usage} {heading : RuleHeading} {f : FileDeclarations}

/-- A draft is about the first use on a line. -/
lemma mem_drafts (hexempt : u.exempts f.file = false) {d : Draft} (hd : d ∈ u.drafts heading f) :
    d.context.path = f.path ∧ ∃ (n : Nat) (line : String), f.file.lines[n]? = some line ∧
      d.context.line = n + 1 ∧ u.subject? heading line = some d.context.name := by
  rw [drafts, hexempt, if_neg Bool.false_ne_true] at hd
  obtain ⟨⟨line, number⟩, hline, hd⟩ := List.mem_filterMap.1 hd
  obtain ⟨subject, hsubject, rfl⟩ := Option.map_eq_some_iff.1 hd
  obtain ⟨hle, hget⟩ := List.mk_mem_zipIdx_iff_le_and_getElem?_sub.1 hline
  exact ⟨rfl, number - 1, line, hget, by dsimp only; omega, hsubject⟩

/-- Every line with a subject has a draft. -/
lemma exists_draft (hexempt : u.exempts f.file = false) {n : Nat} {line subject : String}
    (hline : f.file.lines[n]? = some line) (hsubject : u.subject? heading line = some subject) :
    ∃ d ∈ u.drafts heading f, d.context.line = n + 1 := by
  rw [drafts, hexempt, if_neg Bool.false_ne_true]
  have hmem : (line, n + 1) ∈ f.file.lines.zipIdx 1 :=
    List.mk_mem_zipIdx_iff_le_and_getElem?_sub.2 ⟨Nat.le_add_left 1 n, hline⟩
  exact ⟨_, List.mem_filterMap.2 ⟨_, hmem, by rw [hsubject]; rfl⟩, rfl⟩

/-- The numbers of the items of a list increase. -/
lemma pairwise_zipIdx {α : Type} (l : List α) (start : Nat) :
    (l.zipIdx start).Pairwise fun x y => x.2 < y.2 := by
  refine List.Pairwise.of_map (f := Prod.snd) (fun _ _ h => h) ?_
  rw [List.zipIdx_map_snd]
  exact List.pairwise_lt_range'

/-- The drafts follow the lines. -/
lemma drafts_ascending :
    (u.drafts heading f).Pairwise fun d e => d.context.line < e.context.line := by
  unfold drafts
  split
  · exact .nil
  · refine List.Pairwise.filterMap _ ?_ (pairwise_zipIdx f.file.lines 1)
    rintro ⟨line, number⟩ ⟨line', number'⟩ hlt d hd e he
    obtain ⟨subject, -, rfl⟩ := Option.map_eq_some_iff.1 hd
    obtain ⟨subject', -, rfl⟩ := Option.map_eq_some_iff.1 he
    exact Int.ofNat_lt.2 hlt

/-! ## The violations of a file -/

/-- The violations in which the drafts are worded. -/
lemma tellsFirstUses_of_check [Host] [m : Memory] {r : Rule}
    (hexempt : u.exempts f.file = false) {vs : List Violation} (hvs : u.check r f = .ok vs) :
    u.TellsFirstUses r f vs := by
  rw [check_eq] at hvs
  -- each draft is worded by one violation, so the lines can be read off the drafts
  have hlines : vs.map (·.line) = (u.drafts r.heading f).map (·.context.line) :=
    map_eq_of_mapM (fun _ _ h => (tells_of_report h).line_eq) hvs
  have htells : ∀ v ∈ vs, v.path = f.path ∧ v.ruleId = r.id ∧ ∃ (n : Nat) (line : String),
      f.file.lines[n]? = some line ∧ v.line = n + 1 ∧
        u.subject? r.heading line = some v.subject := by
    intro v hv
    obtain ⟨d, hd, hreport⟩ := exists_of_mem_mapM hvs hv
    have hv := tells_of_report hreport
    obtain ⟨hpath, n, line, hline, hnumber, hsubject⟩ := mem_drafts hexempt hd
    exact ⟨hv.path_eq.trans hpath, hv.ruleId_eq, n, line, hline, hv.line_eq.trans hnumber,
      hv.subject_eq ▸ hsubject⟩
  refine ⟨?_, ?_, fun n line hline => ⟨?_, ?_⟩⟩
  · rw [← List.pairwise_map (f := Violation.line) (R := (· < ·)), hlines, List.pairwise_map]
    exact drafts_ascending
  · intro v hv
    obtain ⟨hpath, hid, n, line, hline, hnumber, hsubject⟩ := htells v hv
    obtain ⟨-, hfirst, hallowed⟩ := subject?_eq_some_iff.1 hsubject
    exact ⟨hpath, hid, n, line, hline, hnumber, hfirst, hallowed⟩
  · rintro ⟨v, hv, hnumber⟩
    obtain ⟨-, -, n', line', hline', hnumber', hsubject⟩ := htells v hv
    obtain rfl : n' = n := by omega
    obtain rfl := Option.some.inj (hline'.symm.trans hline)
    obtain ⟨hcomment, hfirst, hallowed⟩ := subject?_eq_some_iff.1 hsubject
    refine ⟨hcomment, ⟨_, List.mem_of_head? hfirst, hallowed⟩, ?_⟩
    rw [hfirst]
    rintro s ⟨⟩
    exact hallowed
  · rintro ⟨hcomment, ⟨s, hs, -⟩, hall⟩
    obtain ⟨first, hfirst⟩ : ∃ first, (u.uses line).head? = some first := by
      cases huses : u.uses line with
      | nil => exact absurd (huses ▸ hs) List.not_mem_nil
      | cons first rest => exact ⟨first, rfl⟩
    have hsubject := subject?_eq_some_iff.2 ⟨hcomment, hfirst, hall first hfirst⟩
    obtain ⟨d, hd, hnumber⟩ := exists_draft hexempt hline hsubject
    have hmem : d.context.line ∈ vs.map (·.line) := by
      rw [hlines]
      exact List.mem_map_of_mem hd
    obtain ⟨v, hv, hline⟩ := List.mem_map.1 hmem
    exact ⟨v, hv, hline.trans hnumber⟩

end Usage

namespace RuleSet

variable {specs : List RuleSpec} {s : RuleSet} {r : Rule} {u : Usage} {f : FileDeclarations}

/-- The violations of an accepted usage rule are about the first uses on the lines of a file that
is not exempt: a line has one violation if it is no comment, it holds a use that is not allowed,
and no allowed use comes first.  The check fails only where the message of such a line fails,
although the rule is accepted, in whatever memory. -/
theorem check_tellsFirstUses [Host] {m n : Memory} (h : ofSpecs (m := m) specs = .ok s)
    (hr : r ∈ s.rules) (hu : r.check = .usage u) (hexempt : u.exempts f.file = false) :
    (∃ vs, u.check r f = .ok vs ∧ u.TellsFirstUses r f vs) ∨
      ∃ e, r.CanFail e ∧ u.check r f = .error (.template e) ∧
        ∃ d ∈ u.drafts r.heading f, r.message d.context d.own = .error (.template e) := by
  have hkind : r.check.kind = .usage := by rw [hu]; rfl
  have hfits : ∀ d ∈ u.drafts r.heading f, d.Fits r.check.kind := fun d hd => by
    rw [hkind]
    exact u.fits_of_mem_drafts hd
  cases hcheck : u.check r f with
  | ok vs => exact .inl ⟨vs, rfl, Usage.tellsFirstUses_of_check hexempt hcheck⟩
  | error fault =>
    rw [u.check_eq] at hcheck
    obtain ⟨d, hd, hreport⟩ := exists_of_mapM_error hcheck
    obtain ⟨e, rfl, he, hmessage⟩ := message_error_of_report h hr (hfits d hd) hreport
    exact .inr ⟨e, he, rfl, d, hd, hmessage⟩

/-- A rule against the clock of the machine that allows the time with an offset. -/
def clockSpec : RuleSpec :=
  ⟨{ id := "clock", allowList := ["DateTimeOffset.UtcNow"] },
    .usage { pattern := "\\bDateTime(?:Offset)?\\.UtcNow\\b" }⟩

/-- What it checks. -/
def clockUsage : Usage :=
  ⟨(Pattern.read "\\bDateTime(?:Offset)?\\.UtcNow\\b".toList).toOption.getD default, [], []⟩

/-- The rule, checked. -/
def clockRule : Rule :=
  ⟨clockSpec.heading, Template.read clockSpec.templateText.toList, .usage clockUsage⟩

/-- A file of one line, which asks the clock of the machine twice. -/
def spanFile (first second : String) : FileDeclarations :=
  extract Tracker.full ⟨"Span.cs", ["var span = " ++ first ++ ".UtcNow - " ++ second ++ ".UtcNow;"]⟩

section Plain

attribute [local instance] Host.plain Memory.plain

lemma ofSpecs_clockSpec : ofSpecs [clockSpec] = .ok ⟨[clockRule]⟩ := by
  decide +kernel

/-- A use that is not allowed is reported where it comes first. -/
theorem check_tellsFirstUses_clock :
    ∃ vs, clockUsage.check clockRule (spanFile "DateTime" "DateTimeOffset") = .ok vs ∧
      clockUsage.TellsFirstUses clockRule (spanFile "DateTime" "DateTimeOffset") vs ∧
      ∃ v ∈ vs, v.line = 1 := by
  have hchecked := (check_tellsFirstUses (n := Memory.plain)
    (f := spanFile "DateTime" "DateTimeOffset") ofSpecs_clockSpec
      (List.mem_singleton_self clockRule) rfl rfl).resolve_right ?_
  · obtain ⟨vs, hvs, htells⟩ := hchecked
    refine ⟨vs, hvs, htells, (htells.line_iff 0 _ rfl).2 ?_⟩
    decide +kernel
  · rintro ⟨e, hcan, -⟩
    exact Rule.not_canFail (fun _ => le_rfl) (by decide +kernel) e hcan

/-- Behind an allowed use on its line it is not. -/
theorem allowed_use_hides_next :
    ofSpecs [clockSpec] = .ok ⟨[clockRule]⟩ ∧
    clockUsage.exempts (spanFile "DateTimeOffset" "DateTime").file = false ∧
    ∃ line, (spanFile "DateTimeOffset" "DateTime").file.lines[0]? = some line ∧
      isCommentLine line.toList = false ∧
      clockUsage.uses line = ["DateTimeOffset.UtcNow", "DateTime.UtcNow"] ∧
      clockRule.heading.allows "DateTime.UtcNow" = false ∧
      clockUsage.check clockRule (spanFile "DateTimeOffset" "DateTime") = .ok [] := by
  refine ⟨ofSpecs_clockSpec, rfl, _, rfl, ?_⟩
  decide +kernel

end Plain

end RuleSet
end Conformance
