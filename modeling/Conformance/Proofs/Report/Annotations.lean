/-
# Notices line by line

Every finding is written as one annotation: a header with the place and the rule, and behind it the
message, in which line breaks and the escape character are escaped.  Escapes can be undone
(`Notice.unescape_escape`), so the message can be read back.

The path of a violation, the place of a pair and the identities of rules are written as they are
(`Notice.rawTexts`).  A line feed in one of them cuts its line in two, so the text of a report has a
line for each finding, one for the outcome, and one more for each line feed in these texts.  What
the lines are is told in full by `Notice.render_tellsFindings`.
-/
import Conformance.Proofs.Report.Conservation
import Conformance.Proofs.Text.Pieces
import Conformance.Report.Notice

namespace Conformance

namespace Text

/-- What is cut at the last sign is what stands before it, the sign, and what stands behind it. -/
lemma splitLast_eq_some {sep : Char} {s a b : String} (h : splitLast sep s = some (a, b)) :
    s.toList = a.toList ++ sep :: b.toList := by
  have hcut := List.takeWhile_append_dropWhile (p := (· != sep)) (l := s.toList.reverse)
  generalize hb : s.toList.reverse.takeWhile (· != sep) = tail at hcut
  have hdrop : s.toList.reverse.drop tail.length = s.toList.reverse.dropWhile (· != sep) := by
    conv_lhs => rw [← hcut, List.drop_left]
  simp only [splitLast, hb, hdrop] at h
  cases hrest : s.toList.reverse.dropWhile (· != sep) with
  | nil => simp [hrest] at h
  | cons c head =>
    -- read backwards, the last sign is the first one
    have hc : c = sep := by
      have hhead := List.head?_dropWhile_not (· != sep) s.toList.reverse
      simpa [hrest] using hhead
    simp only [hrest, Option.some.injEq, Prod.mk.injEq] at h
    obtain ⟨rfl, rfl⟩ := h
    rw [← List.reverse_inj, ← hcut, hrest, hc]
    simp

end Text

namespace Notice

/-! ## Escapes -/

/-- A message without its escapes, which are undone from left to right. -/
def unescape : List Char → List Char
  | '%' :: '2' :: '5' :: cs => '%' :: unescape cs
  | '%' :: '0' :: 'D' :: cs => '\r' :: unescape cs
  | '%' :: '0' :: 'A' :: cs => '\n' :: unescape cs
  | c :: cs => c :: unescape cs
  | [] => []

lemma escapeChar_of_ne {c : Char} (hpercent : c ≠ '%') (hreturn : c ≠ '\r') (hfeed : c ≠ '\n') :
    escapeChar c = [c] := by
  simp [escapeChar, hpercent, hreturn, hfeed]

lemma unescape_escapeChar_append (c : Char) (cs : List Char) :
    unescape (escapeChar c ++ cs) = c :: unescape cs := by
  by_cases hpercent : c = '%'
  · subst hpercent
    rfl
  by_cases hreturn : c = '\r'
  · subst hreturn
    rfl
  by_cases hfeed : c = '\n'
  · subst hfeed
    rfl
  rw [escapeChar_of_ne hpercent hreturn hfeed, List.singleton_append]
  -- only the escape character starts an escape
  rw [unescape] <;> simp [hpercent]

/-- Escapes can be undone. -/
theorem unescape_escape (s : String) : unescape (escape s).toList = s.toList := by
  rw [escape, String.toList_ofList]
  induction s.toList with
  | nil => rfl
  | cons c cs ih => rw [List.flatMap_cons, unescape_escapeChar_append, ih]

lemma lineFeed_notMem_escapeChar (c : Char) : '\n' ∉ escapeChar c := by
  unfold escapeChar
  split
  · decide
  split
  · decide
  split
  · decide
  · rename_i hfeed
    exact fun hmem => hfeed (beq_iff_eq.2 (List.mem_singleton.1 hmem).symm)

/-! ## Line feeds -/

/-- The number of line feeds in a text. -/
def lineFeeds (s : String) : Nat :=
  s.toList.count '\n'

/-- The number of line feeds in some texts together. -/
def totalLineFeeds (texts : List String) : Nat :=
  (texts.map lineFeeds).sum

@[simp]
lemma lineFeeds_append (s t : String) : lineFeeds (s ++ t) = lineFeeds s + lineFeeds t := by
  simp [lineFeeds]

@[simp]
lemma lineFeeds_escape (s : String) : lineFeeds (escape s) = 0 := by
  rw [lineFeeds, List.count_eq_zero, escape, String.toList_ofList, List.mem_flatMap]
  rintro ⟨c, -, hc⟩
  exact lineFeed_notMem_escapeChar c hc

@[simp]
lemma lineFeeds_intText (i : Int) : lineFeeds (intText i) = 0 :=
  List.count_eq_zero.2 (notMem_intText rfl (by decide) i)

@[simp]
lemma totalLineFeeds_append (u v : List String) :
    totalLineFeeds (u ++ v) = totalLineFeeds u + totalLineFeeds v := by
  simp [totalLineFeeds]

lemma totalLineFeeds_map {α : Type} {line : α → String} {texts : α → List String}
    (h : ∀ a, lineFeeds (line a) = totalLineFeeds (texts a)) (items : List α) :
    totalLineFeeds (items.map line) = totalLineFeeds (items.flatMap texts) := by
  induction items with
  | nil => rfl
  | cons a items ih =>
    rw [List.flatMap_cons, totalLineFeeds_append, ← h a, ← ih]
    rfl

lemma totalLineFeeds_eq_zero {texts : List String} :
    totalLineFeeds texts = 0 ↔ ∀ t ∈ texts, '\n' ∉ t.toList := by
  simp [totalLineFeeds, lineFeeds, List.sum_eq_zero_iff, List.count_eq_zero]

lemma lineFeeds_listed (texts : List String) :
    lineFeeds (", ".intercalate texts) = totalLineFeeds texts := by
  by_cases hne : texts = []
  · subst hne
    rfl
  have hlists : texts.map String.toList ≠ [] := mt List.map_eq_nil_iff.1 hne
  have hcount := Text.count_intercalate '\n' ", ".toList hlists
  rw [lineFeeds, String.toList_intercalate]
  unfold totalLineFeeds lineFeeds
  simpa [Function.comp_def] using hcount

/-- Lines written below one another are cut at their own line feeds as well. -/
lemma pieces_lines {lines : List String} (hne : lines ≠ []) :
    Text.pieces '\n' ("\n".intercalate lines) = lines.flatMap (Text.pieces '\n') := by
  have hlists : lines.map String.toList ≠ [] := mt List.map_eq_nil_iff.1 hne
  have hcut : Text.splitOn '\n' ("\n".toList.intercalate (lines.map String.toList))
      = (lines.map String.toList).flatMap (Text.splitOn '\n') :=
    Text.splitOn_intercalate_eq_flatMap '\n' hlists
  rw [Text.pieces, String.toList_intercalate, hcut, List.flatMap_map, List.map_flatMap]
  rfl

lemma length_pieces (s : String) : (Text.pieces '\n' s).length = lineFeeds s + 1 := by
  rw [Text.pieces, List.length_map, Text.length_splitOn, lineFeeds]

lemma length_flatMap_pieces (lines : List String) :
    (lines.flatMap (Text.pieces '\n')).length = lines.length + totalLineFeeds lines := by
  induction lines with
  | nil => rfl
  | cons l lines ih =>
    have htotal : totalLineFeeds (l :: lines) = lineFeeds l + totalLineFeeds lines := rfl
    rw [List.flatMap_cons, List.length_append, length_pieces, ih, htotal, List.length_cons]
    omega

/-! ## Headers -/

/-- The level that a violation is told at. -/
def violationLevel (advisory : List String) (v : Violation) : String :=
  if advisory.contains v.ruleId then "notice" else level v.severity

/-- What stands before the message of a violation. -/
def violationHeader (advisory : List String) (v : Violation) : String :=
  "::" ++ violationLevel advisory v ++ header v.path (intText v.line) v.ruleId ++ "::"

/-- Path and line of a place: what stands around its last colon. -/
def placeParts (location : String) : String × String :=
  (Text.splitLast ':' location).getD ("", location)

/-- The place and the rule of a pair, if its first subject has a place. -/
def pairPlace (p : SimilarPair) : String :=
  match p.firstLocation.filter (!·.isEmpty) with
  | none => ""
  | some location => header (placeParts location).1 (placeParts location).2 p.ruleId

/-- What stands before the message of a pair. -/
def pairHeader (p : SimilarPair) : String :=
  "::notice" ++ pairPlace p ++ "::"

/-- What an annotation of a pair tells: the message, or both subjects if there is none. -/
def pairText (p : SimilarPair) : String :=
  if p.message.isEmpty then p.key else p.message

lemma ofViolation_eq (advisory : List String) (v : Violation) :
    ofViolation advisory v = violationHeader advisory v ++ escape v.message :=
  rfl

lemma ofPair_eq (p : SimilarPair) : ofPair p = pairHeader p ++ escape (pairText p) :=
  rfl

/-- The texts in the header of a violation that are written as they are. -/
def violationRawTexts (v : Violation) : List String :=
  [v.path, v.ruleId]

/-- The texts in the header of a pair that are written as they are. -/
def pairRawTexts (p : SimilarPair) : List String :=
  match p.firstLocation.filter (!·.isEmpty) with
  | none => []
  | some location => [location, p.ruleId]

/-- The texts of a report that are written as they are. -/
def rawTexts (r : Report) : List String :=
  r.violations.flatMap violationRawTexts ++ r.pairs.flatMap pairRawTexts ++ r.failedRules

/-- A level is a word in small letters. -/
lemma notMem_violationLevel {c : Char} (hc : c.isLower = false) (advisory : List String)
    (v : Violation) : c ∉ (violationLevel advisory v).toList := by
  have hsmall : (violationLevel advisory v).toList.all Char.isLower = true := by
    unfold violationLevel
    split
    · rfl
    · cases v.severity <;> rfl
  intro h
  exact absurd (hc.symm.trans (List.all_eq_true.1 hsmall c h)) (by decide)

lemma lineFeeds_placeParts (location : String) :
    lineFeeds (placeParts location).1 + lineFeeds (placeParts location).2 = lineFeeds location := by
  unfold placeParts
  cases hcut : Text.splitLast ':' location with
  | none => simp [lineFeeds]
  | some parts => simp [lineFeeds, Text.splitLast_eq_some hcut]

lemma lineFeeds_header (path line rule : String) :
    lineFeeds (header path line rule) = lineFeeds path + lineFeeds line + lineFeeds rule := by
  simp only [header, lineFeeds_append]
  simp [lineFeeds]

lemma lineFeeds_ofViolation (advisory : List String) (v : Violation) :
    lineFeeds (ofViolation advisory v) = totalLineFeeds (violationRawTexts v) := by
  have hlevel : lineFeeds (violationLevel advisory v) = 0 :=
    List.count_eq_zero.2 (notMem_violationLevel rfl advisory v)
  have hcolons : lineFeeds "::" = 0 := rfl
  simp only [ofViolation_eq, violationHeader, lineFeeds_append, lineFeeds_header, hlevel, hcolons]
  simp [totalLineFeeds, violationRawTexts]

lemma lineFeeds_ofPair (p : SimilarPair) :
    lineFeeds (ofPair p) = totalLineFeeds (pairRawTexts p) := by
  have hstart : lineFeeds "::notice" = 0 := rfl
  have hcolons : lineFeeds "::" = 0 := rfl
  simp only [ofPair_eq, pairHeader, pairPlace, pairRawTexts, lineFeeds_append, hstart, hcolons]
  cases p.firstLocation.filter (!·.isEmpty) with
  | none => rw [lineFeeds_escape]; rfl
  | some location => simp [totalLineFeeds, lineFeeds_header, lineFeeds_placeParts]

lemma lineFeeds_status (r : Report) : lineFeeds (status r) = totalLineFeeds r.failedRules := by
  have houtcome : lineFeeds (if r.failedRules.isEmpty then "passed"
      else "failed: " ++ ", ".intercalate r.failedRules) = totalLineFeeds r.failedRules := by
    split
    · rename_i hnone
      rw [List.isEmpty_iff.1 hnone]
      rfl
    · rw [lineFeeds_append, lineFeeds_listed]
      exact Nat.zero_add _
  have hname : lineFeeds "archscan " = 0 := rfl
  have hopen : lineFeeds " (" = 0 := rfl
  have hclose : lineFeeds " findings)" = 0 := rfl
  simp only [status, lineFeeds_append, houtcome, hname, hopen, hclose, lineFeeds_intText]
  omega

/-- The line feeds of all lines are those of the texts that are written as they are. -/
lemma totalLineFeeds_lines (r : Report) :
    totalLineFeeds (lines r) = totalLineFeeds (rawTexts r) := by
  have hstatus : totalLineFeeds [status r] = totalLineFeeds r.failedRules := by
    simpa [totalLineFeeds] using lineFeeds_status r
  rw [lines, rawTexts, totalLineFeeds_append, totalLineFeeds_append, totalLineFeeds_append,
    totalLineFeeds_append, totalLineFeeds_map (lineFeeds_ofViolation _),
    totalLineFeeds_map lineFeeds_ofPair, hstatus]

/-! ## Lines -/

lemma length_lines (r : Report) : (lines r).length = r.violations.length + r.pairs.length + 1 := by
  simp [lines, Nat.add_assoc]

/-- Each line of a report is cut on its own. -/
lemma pieces_render (r : Report) :
    Text.pieces '\n' (render r) = (lines r).flatMap (Text.pieces '\n') :=
  pieces_lines (by simp [lines])

theorem length_pieces_render (r : Report) : (Text.pieces '\n' (render r)).length
    = r.violations.length + r.pairs.length + 1 + totalLineFeeds (rawTexts r) := by
  rw [pieces_render, length_flatMap_pieces, length_lines, totalLineFeeds_lines]

theorem pieces_eq_lines_iff (r : Report) :
    Text.pieces '\n' (render r) = lines r ↔ ∀ t ∈ rawTexts r, '\n' ∉ t.toList := by
  constructor
  · intro h
    have hlength := length_pieces_render r
    rw [h, length_lines] at hlength
    exact totalLineFeeds_eq_zero.1 (by omega)
  · intro h
    have hnone : ∀ l ∈ lines r, '\n' ∉ l.toList :=
      totalLineFeeds_eq_zero.1 (by rw [totalLineFeeds_lines, totalLineFeeds_eq_zero.2 h])
    have hsingle : (lines r).flatMap (Text.pieces '\n') = (lines r).flatMap fun l => [l] := by
      refine List.flatMap_congr fun l hl => ?_
      rw [Text.pieces, Text.splitOn_eq_singleton (hnone l hl), List.map_singleton,
        String.ofList_toList]
    rw [pieces_render, hsingle, List.flatMap_singleton']

/-! ## Reading messages back -/

/-- What stands behind the first double colon of a text. -/
def behindColons : List Char → Option (List Char)
  | ':' :: ':' :: cs => some cs
  | _ :: cs => behindColons cs
  | [] => none

/-- The message of an annotation: what stands behind the double colon that ends its header, without
escapes. -/
def readMessage (line : String) : Option String :=
  (behindColons (line.toList.drop 2)).map fun told => String.ofList (unescape told)

/-- Texts without a double colon, also where a colon is put behind them. -/
def ColonsApart (u : List Char) : Prop :=
  ¬ [':', ':'] <:+: u ++ [':']

lemma behindColons_cons_of_ne {c : Char} (hc : c ≠ ':') (cs : List Char) :
    behindColons (c :: cs) = behindColons cs := by
  rw [behindColons]
  simp [hc]

lemma behindColons_cons_cons {c d : Char} (h : ¬ (c = ':' ∧ d = ':')) (cs : List Char) :
    behindColons (c :: d :: cs) = behindColons (d :: cs) := by
  rw [behindColons]
  simpa using h

lemma behindColons_append_of_notMem {u : List Char} (hu : ':' ∉ u) (v : List Char) :
    behindColons (u ++ v) = behindColons v := by
  induction u with
  | nil => rfl
  | cons c u ih =>
    rw [List.mem_cons, not_or] at hu
    rw [List.cons_append, behindColons_cons_of_ne (Ne.symm hu.1), ih hu.2]

lemma behindColons_append {u : List Char} (hu : ColonsApart u) (c : Char) (v : List Char) :
    behindColons (u ++ c :: v) = behindColons (c :: v) := by
  induction u with
  | nil => rfl
  | cons d u ih =>
    have hrest : ColonsApart u := fun h => hu (h.trans (List.suffix_cons d _).isInfix)
    rw [← ih hrest]
    cases u with
    | nil =>
      refine behindColons_cons_cons ?_ v
      rintro ⟨rfl, -⟩
      exact hu (List.prefix_refl _).isInfix
    | cons e u =>
      refine behindColons_cons_cons ?_ _
      rintro ⟨rfl, rfl⟩
      exact hu (List.prefix_append [':', ':'] _).isInfix

lemma colonsApart_of_notMem {u : List Char} (hu : ':' ∉ u) : ColonsApart u := by
  intro h
  have hcount := h.sublist.count_le ':'
  simp [List.count_eq_zero.2 hu] at hcount

/-- Where a text has no double colon, its parts around a colon have none. -/
lemma ColonsApart.around {u v : List Char} (h : ColonsApart (u ++ ':' :: v)) :
    ColonsApart u ∧ ColonsApart v := by
  constructor
  · have hinfix : u ++ [':'] <:+: (u ++ ':' :: v) ++ [':'] := by
      refine (List.IsPrefix.isInfix ⟨v ++ [':'], ?_⟩)
      simp
    exact fun hu => h (hu.trans hinfix)
  · have hinfix : v ++ [':'] <:+: (u ++ ':' :: v) ++ [':'] := by
      refine (List.IsSuffix.isInfix ⟨u ++ [':'], ?_⟩)
      simp
    exact fun hv => h (hv.trans hinfix)

lemma colonsApart_placeParts {location : String} (h : ColonsApart location.toList) :
    ColonsApart (placeParts location).1.toList ∧ ColonsApart (placeParts location).2.toList := by
  unfold placeParts
  cases hcut : Text.splitLast ':' location with
  | none => exact ⟨colonsApart_of_notMem List.not_mem_nil, h⟩
  | some parts =>
    rw [Text.splitLast_eq_some hcut] at h
    exact h.around

/-- A header of such texts ends at its first double colon. -/
lemma behindColons_header {path line rule : String} (hpath : ColonsApart path.toList)
    (hline : ColonsApart line.toList) (hrule : ColonsApart rule.toList) (v : List Char) :
    behindColons ((header path line rule).toList ++ ':' :: ':' :: v) = some v := by
  have hparts : (header path line rule).toList ++ ':' :: ':' :: v
      = " file=".toList ++ (path.toList ++ ',' :: ("line=".toList ++ (line.toList ++
        ',' :: ("title=".toList ++ (rule.toList ++ ':' :: ':' :: v))))) := by
    simp [header]
  have hcomma : ',' ≠ ':' := by decide
  rw [hparts, behindColons_append_of_notMem (by decide), behindColons_append hpath,
    behindColons_cons_of_ne hcomma, behindColons_append_of_notMem (by decide),
    behindColons_append hline, behindColons_cons_of_ne hcomma,
    behindColons_append_of_notMem (by decide), behindColons_append hrule, behindColons]

lemma readMessage_ofViolation {advisory : List String} {v : Violation}
    (h : ∀ t ∈ violationRawTexts v, ColonsApart t.toList) :
    readMessage (ofViolation advisory v) = some v.message := by
  have hparts : (ofViolation advisory v).toList.drop 2
      = (violationLevel advisory v).toList ++ ((header v.path (intText v.line) v.ruleId).toList ++
          ':' :: ':' :: (escape v.message).toList) := by
    simp [ofViolation_eq, violationHeader]
  have hline : ColonsApart (intText v.line).toList :=
    colonsApart_of_notMem (notMem_intText rfl (by decide) _)
  rw [readMessage, hparts, behindColons_append_of_notMem (notMem_violationLevel rfl advisory v),
    behindColons_header (h v.path (by simp [violationRawTexts])) hline
      (h v.ruleId (by simp [violationRawTexts]))]
  simp [unescape_escape]

lemma readMessage_ofPair {p : SimilarPair} (h : ∀ t ∈ pairRawTexts p, ColonsApart t.toList) :
    readMessage (ofPair p) = some (pairText p) := by
  have hparts : (ofPair p).toList.drop 2 = "notice".toList ++ ((pairPlace p).toList ++
      ':' :: ':' :: (escape (pairText p)).toList) := by
    simp [ofPair_eq, pairHeader]
  have hplace : behindColons ((pairPlace p).toList ++ ':' :: ':' :: (escape (pairText p)).toList)
      = some (escape (pairText p)).toList := by
    unfold pairRawTexts at h
    unfold pairPlace
    generalize p.firstLocation.filter (!·.isEmpty) = place at h
    cases place with
    | none => rfl
    | some location =>
      have hlocation := colonsApart_placeParts (h location (by simp))
      exact behindColons_header hlocation.1 hlocation.2 (h p.ruleId (by simp)) _
  rw [readMessage, hparts, behindColons_append_of_notMem (by decide), hplace]
  simp [unescape_escape]

/-! ## All lines -/

/-- What the text of a report tells of its findings. -/
structure TellsFindings (r : Report) : Prop where
  /-- The lines are those of each annotation, in order, and of the outcome. -/
  pieces_eq : Text.pieces '\n' (render r)
    = (r.violations.map (ofViolation (advisoryRules r)) ++ r.pairs.map ofPair ++
        [status r]).flatMap (Text.pieces '\n')
  /-- Each line feed in a text that is written as it is makes one line more. -/
  length_pieces : (Text.pieces '\n' (render r)).length
    = r.violations.length + r.pairs.length + 1 + totalLineFeeds (rawTexts r)
  /-- Just without such line feeds, each annotation is one line, and so is the outcome. -/
  pieces_eq_iff : Text.pieces '\n' (render r)
      = r.violations.map (ofViolation (advisoryRules r)) ++ r.pairs.map ofPair ++ [status r] ↔
    ∀ t ∈ rawTexts r, '\n' ∉ t.toList
  /-- What stands behind the header of a violation is its message, escaped. -/
  violation_told : ∀ v ∈ r.violations, ∃ told,
    ofViolation (advisoryRules r) v = violationHeader (advisoryRules r) v ++ told ∧
      unescape told.toList = v.message.toList
  /-- What stands behind the header of a pair is its message or its key, escaped. -/
  pair_told : ∀ p ∈ r.pairs, ∃ told, ofPair p = pairHeader p ++ told ∧
    unescape told.toList = (pairText p).toList
  /-- Without a double colon in the header, the message can be read off the line alone. -/
  violation_read : ∀ v ∈ r.violations, (∀ t ∈ violationRawTexts v, ColonsApart t.toList) →
    readMessage (ofViolation (advisoryRules r) v) = some v.message
  /-- And so can that of a pair. -/
  pair_read : ∀ p ∈ r.pairs, (∀ t ∈ pairRawTexts p, ColonsApart t.toList) →
    readMessage (ofPair p) = some (pairText p)

/-- The text of a report has one line for each finding, and one for the outcome, up to the line
feeds in the texts that are not escaped; each message can be read back. -/
theorem render_tellsFindings (r : Report) : TellsFindings r where
  pieces_eq := pieces_render r
  length_pieces := length_pieces_render r
  pieces_eq_iff := pieces_eq_lines_iff r
  violation_told v _ := ⟨_, ofViolation_eq _ v, unescape_escape _⟩
  pair_told p _ := ⟨_, ofPair_eq p, unescape_escape _⟩
  violation_read _ _ := readMessage_ofViolation
  pair_read _ _ := readMessage_ofPair

/-- A report with one violation, in a file whose path has a line feed. -/
def brokenPathReport : Report :=
  .aggregate [{ path := "src/A\nB.cs", line := 1, ruleId := "r", subject := "A", message := "m" }]
    [] [] {}

/-- A line feed in a path cuts the annotation: one finding has two lines. -/
theorem annotation_cut_at_path :
    Text.pieces '\n' (render brokenPathReport)
        = ["::error file=src/A", "B.cs,line=1,title=r::m", "archscan passed (1 findings)"] ∧
      (Text.pieces '\n' (render brokenPathReport)).length
        ≠ brokenPathReport.violations.length + brokenPathReport.pairs.length + 1 := by
  decide +kernel

end Notice

end Conformance
