import ContestExchange.Exchange.Multiplier
import ContestExchange.Proofs.CapitalForm
import Mathlib.Data.List.Induction

namespace ContestExchange

/-!
# Multiplier lists are clean

A list file is written by hand: blanks around its codes, names behind them, remarks, small letters,
and a mark at its very start that an editor has put there.  What comes out of it is fit for a table.
Every code is trimmed, in capitals and without any of the characters that a line is divided at, and
no code comes twice.

A table reads the codes of its list once more, as if they were lines.  That changes nothing, since
a clean code is a line that consists of its own code.  The mark at the start is what the argument
turns on: only at the start of a line is it taken off, so a second one would come to light when a
code is read again.
-/

namespace Text

/-! ## Lines -/

theorem sublist_of_mem_consLine {first : Char} {rest line : Text} {others : List Text}
    (below : ∀ other ∈ others, List.Sublist other rest) (member : line ∈ consLine first others) :
    List.Sublist line (first :: rest) := by
  cases others with
  | nil =>
      rw [List.mem_singleton.mp member]
      exact (List.nil_sublist rest).cons_cons first
  | cons next others =>
      rcases List.mem_cons.mp member with same | among
      · rw [same]
        exact (below next List.mem_cons_self).cons_cons first
      · exact (below line (List.mem_cons_of_mem next among)).cons first

theorem sublist_of_mem_nil_cons {rest line : Text} {others : List Text}
    (below : ∀ other ∈ others, List.Sublist other rest) (member : line ∈ [] :: others) :
    List.Sublist line rest := by
  rcases List.mem_cons.mp member with same | among
  · rw [same]
    exact List.nil_sublist rest
  · exact below line among

/-- A line consists of characters of the text, in their order. -/
theorem sublist_of_mem_lines (text : Text) : ∀ line ∈ lines text, List.Sublist line text := by
  induction text using lines.induct with
  | case1 =>
      intro line member
      cases member
  | case2 character breaks =>
      intro line member
      rw [lines, if_pos breaks] at member
      rw [List.mem_singleton.mp member]
      exact List.nil_sublist _
  | case3 character inside =>
      intro line member
      rw [lines, if_neg inside] at member
      rw [List.mem_singleton.mp member]
  | case4 first second rest both inductionHypothesis =>
      intro line member
      rw [lines, if_pos both] at member
      exact ((sublist_of_mem_nil_cons inductionHypothesis member).cons second).cons first
  | case5 first second rest apart breaks inductionHypothesis =>
      intro line member
      rw [lines, if_neg apart, if_pos breaks] at member
      exact (sublist_of_mem_nil_cons inductionHypothesis member).cons first
  | case6 first second rest apart inside inductionHypothesis =>
      intro line member
      rw [lines, if_neg apart, if_neg inside] at member
      exact sublist_of_mem_consLine inductionHypothesis member

theorem sublist_trim (text : Text) : List.Sublist (trim text) text := by
  have ends : List.Sublist (trim text) (trimStart text) := by
    rw [← List.reverse_sublist, trim, trimEnd, List.reverse_reverse]
    exact List.dropWhile_sublist isBlank
  exact ends.trans (List.dropWhile_sublist isBlank)

theorem before_of_not_mem {mark : Char} {text : Text} (absent : mark ∉ text) :
    before mark text = text := by
  rw [before, List.takeWhile_eq_self_iff]
  intro character member
  rw [bne_iff_ne]
  rintro rfl
  exact absent member

theorem not_mem_before (mark : Char) (text : Text) : mark ∉ before mark text := by
  intro member
  have other := List.all_eq_true.mp List.all_takeWhile mark member
  rw [bne_self_eq_false] at other
  exact Bool.false_ne_true other

/-- Only at the start can a mark be that occurs nowhere else, and dropping it there leaves none. -/
theorem not_mem_dropWhile_of_tail {mark : Char} {text : Text} (once : mark ∉ text.tail) :
    mark ∉ text.dropWhile (· == mark) := by
  cases text with
  | nil => exact List.not_mem_nil
  | cons first rest =>
      by_cases same : first = mark
      · intro member
        rw [List.dropWhile_cons, if_pos (beq_iff_eq.mpr same)] at member
        exact once ((List.dropWhile_sublist _).mem member)
      · rw [List.dropWhile_cons, if_neg (beq_iff_eq.not.mpr same)]
        intro member
        rcases List.mem_cons.mp member with first | among
        · exact same first.symm
        · exact once among

end Text

namespace MultiplierTable

/-! ## Marks -/

/-- The marks that a line is divided at, and the one at the start of a file. -/
def marks : List Char := [',', ':', byteOrderMark]

/-- Whether no capital of a run is a mark, since they lie before it or behind it. -/
def isUnmarked (run : Text.CapitalRun) : Bool :=
  marks.all fun mark => mark.toNat.blt (run.capitalOf run.first) ||
    (run.capitalOf run.last).blt mark.toNat

theorem isUnmarked_of_mem : (Text.capitalRuns.all isUnmarked) = true := by
  decide +kernel

theorem isUnmarked_spelled_of_mem : (Text.spelledCapitals.all fun entry =>
    entry.2.all fun code => !marks.contains (Char.ofNat code)) = true := by
  decide +kernel

/-- A mark is in no capital form but its own. -/
theorem eq_of_mem_capital {mark character : Char} (listed : mark ∈ marks)
    (member : mark ∈ Text.capital character) : mark = character := by
  rcases Text.mem_capital_cases member with ascii | ⟨run, among, has, same⟩ |
    ⟨entry, among, code, spelling, same⟩ | ⟨_, same⟩
  · have all := Text.of_codes (fun character => ((Text.capital character).all fun mark =>
      !marks.contains mark || mark == character) = true) ascii (by decide +kernel)
    have own := List.all_eq_true.mp all mark member
    rw [List.contains_iff_mem.mpr listed, Bool.not_true, Bool.false_or, beq_iff_eq] at own
    exact own
  · have outside := List.all_eq_true.mp (List.all_eq_true.mp isUnmarked_of_mem run among) mark listed
    rw [Bool.or_eq_true, Nat.blt_eq, Nat.blt_eq] at outside
    rcases Text.CapitalRun.has_iff.mp has with ⟨above, below, _⟩
    have placed := Text.isPlaced_of_mem run among
    have moved := Text.CapitalRun.capitalOf_eq placed above
    have last := Text.CapitalRun.capitalOf_eq placed (Nat.le_trans above below)
    have code := Text.toNat_capitalOf among has
    rw [← same] at code
    omega
  · have spellings := List.all_eq_true.mp isUnmarked_spelled_of_mem entry among
    have unlisted := List.all_eq_true.mp spellings code spelling
    rw [← same, List.contains_iff_mem.mpr listed] at unlisted
    cases unlisted
  · exact same

theorem not_mem_upper {mark : Char} (listed : mark ∈ marks) {text : Text} (absent : mark ∉ text) :
    mark ∉ Text.upper text := by
  intro member
  rcases List.mem_flatMap.mp member with ⟨character, among, inside⟩
  rw [eq_of_mem_capital listed inside] at absent
  exact absent among

/-! ## Codes -/

/-- What a code of a list is. -/
structure IsCleanCode (code : Text) : Prop where
  present : code ≠ []
  capitals : Text.upper code = code
  trimmed : Text.trim code = code
  undivided : ',' ∉ code ∧ ':' ∉ code
  noRemark : code.head? ≠ some '#'
  unmarked : byteOrderMark ∉ code

theorem isRemark_eq_false_iff {text : Text} :
    isRemark text = false ↔ text ≠ [] ∧ text.head? ≠ some '#' := by
  rw [isRemark, Bool.or_eq_false_iff, List.isEmpty_eq_false_iff, beq_eq_false_iff_ne]

/-- The code of a line in which the mark is at most the first character. -/
theorem isCleanCode_of_codeOfLine? {line code : Text} (once : byteOrderMark ∉ line.tail)
    (found : codeOfLine? line = some code) : IsCleanCode code := by
  unfold codeOfLine? at found
  dsimp only at found
  generalize rest : (Text.trim line).dropWhile (· == byteOrderMark) = content at found
  have unmarked : byteOrderMark ∉ content := by
    rw [← rest]
    apply Text.not_mem_dropWhile_of_tail
    intro member
    exact once ((Text.sublist_trim line).tail.mem member)
  split at found
  · cases found
  split at found
  · cases found
  rename_i noRemark
  have same := Option.some.inj found
  rw [Bool.not_eq_true, isRemark_eq_false_iff, same] at noRemark
  generalize short : Text.before ',' content = shortened at same
  have noComma : ',' ∉ shortened := by
    rw [← short]
    exact Text.not_mem_before ',' content
  have within : List.Sublist shortened content := by
    rw [← short]
    exact List.takeWhile_sublist _
  have field : List.Sublist (Text.trim (Text.before ':' shortened)) shortened :=
    (Text.sublist_trim _).trans (List.takeWhile_sublist _)
  have noColon : ':' ∉ Text.trim (Text.before ':' shortened) := by
    intro member
    exact Text.not_mem_before ':' shortened ((Text.sublist_trim _).mem member)
  -- The capitals come last, and no mark arises from them.
  have clear (mark : Char) (listed : mark ∈ marks)
      (absent : mark ∉ Text.trim (Text.before ':' shortened)) : mark ∉ code := by
    rw [← same]
    exact not_mem_upper listed absent
  constructor
  case present => exact noRemark.1
  case noRemark => exact noRemark.2
  case capitals =>
    rw [← same]
    exact Text.upper_upper _
  case trimmed =>
    rw [← same]
    exact (Text.isTrimmed_trim _).capitals.trim_eq
  case undivided =>
    refine ⟨clear ',' (by decide) fun member => noComma (field.mem member), ?_⟩
    exact clear ':' (by decide) noColon
  case unmarked =>
    exact clear byteOrderMark (by decide) fun member => unmarked (within.mem (field.mem member))

/-- A code is a line that consists of its own code. -/
theorem codeOfLine?_of_isCleanCode {code : Text} (isCode : IsCleanCode code) :
    codeOfLine? code = some code := by
  have kept : (Text.trim code).dropWhile (· == byteOrderMark) = code := by
    rw [isCode.trimmed, List.dropWhile_eq_self_iff]
    intro present marked
    have first := List.getElem_mem present
    rw [beq_iff_eq.mp marked] at first
    exact isCode.unmarked first
  have noRemark : ¬ isRemark code = true := by
    rw [Bool.not_eq_true, isRemark_eq_false_iff]
    exact ⟨isCode.present, isCode.noRemark⟩
  unfold codeOfLine?
  dsimp only
  rw [kept, if_neg noRemark, Text.before_of_not_mem isCode.undivided.1,
    Text.before_of_not_mem isCode.undivided.2, isCode.trimmed, isCode.capitals, if_neg noRemark]

theorem filterMap_codeOfLine? {codes : List Text} (clean : ∀ code ∈ codes, IsCleanCode code) :
    codes.filterMap codeOfLine? = codes := by
  have own : codes.filterMap codeOfLine? = codes.filterMap some :=
    List.filterMap_congr fun code member => codeOfLine?_of_isCleanCode (clean code member)
  rw [own, List.filterMap_some]

/-! ## Lists of codes -/

theorem addCode_of_mem {known : List Text} {code : Text} (member : code ∈ known) :
    addCode known code = known := by
  rw [addCode, if_pos (List.contains_iff_mem.mpr member)]

theorem addCode_of_not_mem {known : List Text} {code : Text} (new : code ∉ known) :
    addCode known code = known ++ [code] := by
  rw [addCode, if_neg (List.contains_iff_mem.not.mpr new)]

/-- Adding codes one after the other keeps the first of each. -/
theorem foldl_addCode (codes : List Text) : codes.foldl addCode [] = codes.eraseDups := by
  induction codes using List.reverseRecOn with
  | nil => rfl
  | append_singleton codes code inductionHypothesis =>
      rw [List.foldl_concat, inductionHypothesis, List.eraseDups_append]
      by_cases member : code ∈ codes
      · have nothing : [code].removeAll codes = [] := by
          simp only [List.removeAll, List.elem_eq_mem, member, decide_true, Bool.not_true,
            List.filter_cons, Bool.false_eq_true, if_false, List.filter_nil]
        rw [addCode_of_mem (List.mem_eraseDups.mpr member), nothing, List.eraseDups_nil,
          List.append_nil]
      · have kept : [code].removeAll codes = [code] := by
          simp only [List.removeAll, List.elem_eq_mem, member, decide_false, Bool.not_false,
            List.filter_cons, if_true, List.filter_nil]
        rw [addCode_of_not_mem (List.mem_eraseDups.not.mpr member), kept, List.eraseDups_cons]
        rfl

theorem nodup_addCode {known : List Text} (distinct : known.Nodup) (code : Text) :
    (addCode known code).Nodup := by
  by_cases member : code ∈ known
  · rw [addCode_of_mem member]
    exact distinct
  · rw [addCode_of_not_mem member, ← List.concat_eq_append]
    exact distinct.concat member

/-- No code of a list comes twice, whatever its lines are. -/
theorem nodup_codesOfLines (lines : List Text) : (codesOfLines lines).Nodup := by
  have adds (codes : List Text) : ∀ known : List Text, known.Nodup →
      (codes.foldl addCode known).Nodup := by
    induction codes with
    | nil => exact fun known distinct => distinct
    | cons code codes inductionHypothesis =>
        exact fun known distinct => inductionHypothesis _ (nodup_addCode distinct code)
  exact adds _ [] List.nodup_nil

/-- A list without repetitions is not changed by adding its codes one after the other. -/
theorem foldl_addCode_of_nodup {codes : List Text} (distinct : codes.Nodup) :
    codes.foldl addCode [] = codes := by
  induction codes using List.reverseRecOn with
  | nil => rfl
  | append_singleton codes code inductionHypothesis =>
      rw [← List.concat_eq_append, List.nodup_concat] at distinct
      rw [List.foldl_concat, inductionHypothesis distinct.2, addCode_of_not_mem distinct.1]

theorem codesOfLines_of_clean {codes : List Text} (clean : ∀ code ∈ codes, IsCleanCode code)
    (distinct : codes.Nodup) : codesOfLines codes = codes := by
  rw [codesOfLines, filterMap_codeOfLine? clean, foldl_addCode_of_nodup distinct]

/-- The codes of a file in which the mark is at most the first character: each code of its lines
once, in the order of their first occurrence, and all of them clean.  A table takes them over as
they are. -/
theorem codesOfText_clean {content : Text} (once : byteOrderMark ∉ content.tail) :
    codesOfText content = ((Text.lines content).filterMap codeOfLine?).eraseDups ∧
      (codesOfText content).Nodup ∧ (∀ code ∈ codesOfText content, IsCleanCode code) ∧
      (ofText content).entries = codesOfText content := by
  have order : codesOfText content = ((Text.lines content).filterMap codeOfLine?).eraseDups :=
    foldl_addCode _
  have distinct := nodup_codesOfLines (Text.lines content)
  have clean : ∀ code ∈ codesOfText content, IsCleanCode code := by
    intro code member
    rw [order, List.mem_eraseDups, List.mem_filterMap] at member
    rcases member with ⟨line, among, found⟩
    have onceInLine : byteOrderMark ∉ line.tail := fun marked =>
      once ((Text.sublist_of_mem_lines content line among).tail.mem marked)
    exact isCleanCode_of_codeOfLine? onceInLine found
  exact ⟨order, distinct, clean, codesOfLines_of_clean clean distinct⟩

/-- A list with a mark at its start, blanks, names, a remark and a repetition. -/
theorem codesOfText_clean_of_repeated_code :
    ∃ content, content =
        Text.ofString "\uFEFFct, Connecticut\n # New England\nema: Eastern\n CT\n" ∧
      byteOrderMark ∈ content ∧ byteOrderMark ∉ content.tail ∧
      codesOfText content = [Text.ofString "CT", Text.ofString "EMA"] ∧
      (ofText content).entries = [Text.ofString "CT", Text.ofString "EMA"] := by
  refine ⟨_, rfl, by decide, ?_⟩
  generalize read : Text.ofString _ = content
  have once : byteOrderMark ∉ content.tail := by
    rw [← read]
    decide
  have codes : codesOfText content = [Text.ofString "CT", Text.ofString "EMA"] := by
    rw [← read]
    decide +kernel
  rcases codesOfText_clean once with ⟨_, _, _, kept⟩
  exact ⟨once, codes, kept.trans codes⟩

end MultiplierTable
end ContestExchange
