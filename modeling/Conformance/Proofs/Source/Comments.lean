/-
# Comments in a text

A comment starts with two marks, of which the first is a slash.  The marks `/` and `*` open a
comment up to the marks `*` and `/`, if these come, and two slashes open one up to the end of the
line.  What a pattern for comments takes from the start of a text is told by a function for each
sort, so removing comments can be followed along the parts of a text.
-/
import Conformance.Proofs.Source.ParameterName

namespace Conformance.Source
open Pattern

/-! ## Comments between marks -/

/-- The text up to the marks that close a comment, with the text behind them. -/
def takeClosed : List Char → Option (List Char × List Char)
  | [] => none
  | c :: cs => if ['*', '/'] <+: c :: cs then some ([], cs.tail)
    else (takeClosed cs).map fun (w, v) => (c :: w, v)

/-- The comment between marks at the start of a text, with the text behind it. -/
def takeBlockComment (u : List Char) : Option (List Char × List Char) :=
  if ['/', '*'] <+: u then
    (takeClosed (u.drop 2)).map fun (w, v) => ('/' :: '*' :: (w ++ ['*', '/']), v)
  else none

lemma takeClosed_eq_append {u w v : List Char} (h : takeClosed u = some (w, v)) :
    u = w ++ '*' :: '/' :: v := by
  induction u generalizing w v with
  | nil => exact absurd h (by simp [takeClosed])
  | cons c cs ih =>
    rw [takeClosed] at h
    split at h
    · rename_i hmarks
      obtain ⟨rfl, rfl⟩ := Prod.mk.inj (Option.some.inj h)
      obtain ⟨rest, hrest⟩ := hmarks
      obtain ⟨rfl, rfl⟩ := List.cons.inj hrest
      rfl
    · obtain ⟨⟨w', v'⟩, htake, heq⟩ := Option.map_eq_some_iff.1 h
      obtain ⟨rfl, rfl⟩ := Prod.mk.inj heq
      rw [List.cons_append, ih htake]

/-- The first closing marks are found. -/
lemma takeClosed_append {w : List Char} (hw : ¬ ['*', '/'] <:+: w) (v : List Char) :
    takeClosed (w ++ '*' :: '/' :: v) = some (w, v) := by
  induction w with
  | nil => simp [takeClosed]
  | cons c w ih =>
    rw [List.infix_cons_iff, not_or] at hw
    have hmarks : ¬ ['*', '/'] <+: c :: (w ++ '*' :: '/' :: v) := by
      intro hprefix
      obtain ⟨rfl, hnext⟩ := List.cons_prefix_cons.1 hprefix
      cases w with
      | nil => exact absurd (List.cons_prefix_cons.1 hnext).1 (by decide)
      | cons d w =>
        obtain ⟨rfl, -⟩ := List.cons_prefix_cons.1 hnext
        exact hw.1 (by simp)
    rw [List.cons_append, takeClosed, if_neg hmarks, ih hw.2]
    rfl

/-- A comment is read to its first closing marks. -/
lemma run_closed (b u : List Char) :
    run (lazyStar (.one .any)) (Progress.amid b u []) (fun s => run (word "*/") s some)
      = (takeClosed u).map fun (w, v) => Progress.amid ('/' :: '*' :: (w.reverse ++ b)) v
        ([] : List (Part × Capture)) := by
  induction u generalizing b with
  | nil =>
    rw [run_lazyStar_of_failsAt (failsAt_one (CharTest.refusesStart_nil _))]
    rfl
  | cons c cs ih =>
    rw [run_lazyStar_one_cons (by rfl), ih, takeClosed]
    split
    · rename_i hmarks
      obtain ⟨rest, hrest⟩ := hmarks
      obtain ⟨rfl, rfl⟩ := List.cons.inj hrest
      have hword : run (word "*/") (Progress.amid b ('*' :: '/' :: rest) []) some
          = some (Progress.amid ('/' :: '*' :: b) rest ([] : List (Part × Capture))) :=
        run_word "*/"
      exact congrArg (Option.or · _) hword
    · rename_i hmarks
      have hfails : run (word "*/") (Progress.amid b (c :: cs) []) some
          = (none : Option (Progress Part)) :=
        failsAt_word_of_not_isPrefix "*/" hmarks some
      rw [hfails, Option.none_or, Option.map_map]
      refine congrArg (Option.map · _) (funext fun taken => ?_)
      simp

lemma takes_blockComment : blockComment.Takes takeBlockComment := by
  constructor
  · intro u w v h
    obtain ⟨⟨rest, rfl⟩, heq⟩ := Option.ite_none_right_eq_some.1 h
    obtain ⟨⟨w', v'⟩, htake, heq⟩ := Option.map_eq_some_iff.1 heq
    obtain ⟨rfl, rfl⟩ := Prod.mk.inj heq
    have hrest : rest = w' ++ '*' :: '/' :: v' := takeClosed_eq_append htake
    exact ⟨by simp [hrest], by simp⟩
  · intro b u
    rw [matchAt?_amid, takeBlockComment]
    split
    · rename_i hmarks
      obtain ⟨rest, rfl⟩ := hmarks
      have hopen : run blockComment (Progress.amid b ("/*".toList ++ rest) []) some
          = run (lazyStar (.one .any)) (Progress.amid ('*' :: '/' :: b) rest [])
            fun s => run (word "*/") s some := by
        rw [blockComment, run_concat_cons, run_word, run_concat_cons]
        rfl
      have hdrop : (['/', '*'] ++ rest).drop 2 = rest := rfl
      rw [hdrop, Option.map_map]
      refine (congrArg (Option.map _) (hopen.trans (run_closed _ _))).trans ?_
      rw [Option.map_map]
      refine congrArg (Option.map · _) (funext fun taken => ?_)
      simp
    · rename_i hmarks
      have hfails : run blockComment (Progress.amid b u []) some = none :=
        (failsAt_word_of_not_isPrefix "/*" hmarks).concat_cons _ some
      rw [hfails]
      rfl

lemma startsWith_blockComment : StartsWith takeBlockComment '/' '*' :=
  fun _ h => if_neg h

/-! ## Comments up to the end of a line -/

/-- The comment up to the end of the line at the start of a text, with the text behind it. -/
def takeLineComment (u : List Char) : Option (List Char × List Char) :=
  if ['/', '/'] <+: u then some (Text.before '\n' u, u.dropWhile (· != '\n')) else none

lemma takes_lineComment : lineComment.Takes takeLineComment := by
  constructor
  · intro u w v h
    obtain ⟨⟨rest, rfl⟩, heq⟩ := Option.ite_none_right_eq_some.1 h
    obtain ⟨rfl, rfl⟩ := Prod.mk.inj (Option.some.inj heq)
    exact ⟨(Text.before_append_dropWhile '\n' _).symm, by simp [Text.before]⟩
  · intro b u
    rw [matchAt?_amid, takeLineComment]
    split
    · rename_i hmarks
      obtain ⟨rest, rfl⟩ := hmarks
      have hinner : ∀ x ∈ Text.before '\n' rest, (CharTest.noneOf ['\n']).accepts x = true := by
        intro x hx
        rw [accepts_noneOf_singleton]
        rintro rfl
        exact Text.notMem_before '\n' rest hx
      have hend : (CharTest.noneOf ['\n']).RefusesStart (rest.dropWhile (· != '\n')) := by
        intro x more hmore
        have hhead := List.head?_dropWhile_not (· != '\n') rest
        rw [hmore] at hhead
        rw [← Bool.not_eq_true, accepts_noneOf_singleton]
        simpa using hhead
      have hrun : run lineComment (Progress.amid b ("//".toList ++ rest) []) some
          = some (Progress.amid ((Text.before '\n' rest).reverse ++ '/' :: '/' :: b)
            (rest.dropWhile (· != '\n')) []) := by
        rw [lineComment, run_concat_cons, run_word, run_concat_cons]
        conv_lhs => rw [← Text.before_append_dropWhile '\n' rest]
        exact run_star_one_eq_some hinner hend rfl
      refine (congrArg (Option.map _) hrun).trans ?_
      simp [Text.before]
    · rename_i hmarks
      have hfails : run lineComment (Progress.amid b u []) some = none :=
        (failsAt_word_of_not_isPrefix "//" hmarks).concat_cons _ some
      rw [hfails]
      rfl

lemma startsWith_lineComment : StartsWith takeLineComment '/' '/' :=
  fun _ h => if_neg h

/-! ## Texts without comments -/

/-- A text without the comments between marks. -/
def withoutBlocks (u : List Char) : List Char :=
  blockComment.removeFrom u

/-- A text without the comments up to the ends of lines. -/
def withoutLines (u : List Char) : List Char :=
  lineComment.removeFrom u

lemma withoutBlocks_comment {t : List Char} (ht : ¬ ['*', '/'] <:+: t) (v : List Char) :
    withoutBlocks ('/' :: '*' :: (t ++ '*' :: '/' :: v)) = withoutBlocks v := by
  have htake : takeBlockComment ('/' :: '*' :: (t ++ '*' :: '/' :: v))
      = some ('/' :: '*' :: (t ++ ['*', '/']), v) := by
    rw [takeBlockComment, if_pos (by simp), List.drop_succ_cons, List.drop_succ_cons,
      List.drop_zero, takeClosed_append ht]
    rfl
  exact takes_blockComment.removeFrom_of_some htake

/-- The end of the line is not part of a comment. -/
lemma withoutLines_comment {t : List Char} (ht : '\n' ∉ t) (v : List Char) :
    withoutLines ('/' :: '/' :: (t ++ '\n' :: v)) = '\n' :: withoutLines v := by
  have hline : '\n' ∉ '/' :: '/' :: t := by simpa using ht
  have htake : takeLineComment ('/' :: '/' :: t ++ '\n' :: v)
      = some ('/' :: '/' :: t, '\n' :: v) := by
    have hbefore : Text.before '\n' ('/' :: '/' :: t ++ '\n' :: v) = '/' :: '/' :: t := by
      rw [Text.before_append_of_notMem hline]
      simp [Text.before]
    rw [takeLineComment, if_pos (by simp), hbefore, Text.dropWhile_append_sign hline]
  have hremove : withoutLines ('/' :: '/' :: (t ++ '\n' :: v)) = withoutLines ('\n' :: v) :=
    takes_lineComment.removeFrom_of_some htake
  rw [hremove]
  exact takes_lineComment.removeFrom_cons_of_ne startsWith_lineComment (by decide) v

end Conformance.Source
