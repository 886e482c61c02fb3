import LayoutRules.Command.Check
import LayoutRules.Proofs.Rule.Agreement
import LayoutRules.Proofs.Tree.Restored

/-!
# A listing and a check of one rule

A listing scans a rule to its end, and a check reads it up to the first piece
that does not fit. So a check may fail before it comes to the error that the
listing reports, but it does not read a rule which the listing refuses, and it
reports no other lexical error. What it reads the listing shows as the same
three pieces.
-/

namespace LayoutRules

namespace Rule

variable {σ δ : Type} [Source σ]

/-- A source that always has a token is not read with a lexical error. -/
theorem outcome_ne_lexical
    {source : σ}
    (trace : Bool)
    (h : ∀ index, ∃ token, Source.answer source index = .ok token)
    (error : SourceError) :
    (outcome trace source : Except RuleError (Tree δ)) ≠ .error (.lexical error) := by
  intro houtcome
  rcases delivers_or_refuses (δ := δ) trace source with hdelivers | ⟨place, hplace, hfault⟩
  · obtain ⟨name, op, value, -, -, -, -, -, htree⟩ := hdelivers
    rw [houtcome] at htree
    cases htree
  · obtain ⟨token, htoken⟩ := h place
    rw [houtcome, htoken, fault] at hfault
    exact misfit_ne_lexical token place error (Except.error.inj hfault).symm

section Scanned

variable {text : String}

/-- A text that is read as a rule has the rule's three pieces and no others. -/
theorem scan_of_parse
    {tree : Tree δ}
    (h : Tree.parse text = .ok tree) :
    ∃ name op value,
      Scanner.scan text = .ok [.attr name, .operator op, value] ∧
      tree = Tree.ofParts name op value := by
  obtain ⟨name, op, value, hname, hop, hvalue, -, hfinish, htree⟩ :=
    (outcome_eq_ok_iff false).mp h
  have hbegins : Source.Begins (Scanner.ofString text) [.attr name, .operator op, value] := by
    intro index content hcontent
    match index, hcontent with
    | 0, rfl => exact hname
    | 1, rfl => exact hop
    | 2, rfl => exact hvalue
  exact ⟨name, op, value, Scanner.scan_of_pieces (Scanner.pieces_of_begins hbegins hfinish),
    Except.ok.inj htree⟩

/-- The lexical error of a reading is the first one in the text. -/
theorem scan_of_lexical
    {error : SourceError}
    (h : (Tree.parse text : Except RuleError (Tree δ)) = .error (.lexical error)) :
    Scanner.scan text = .error error := by
  rw [parse_eq_outcome] at h
  rcases hpieces : (Scanner.ofString text).pieces with ⟨contents, cause⟩
  rw [Scanner.scan_of_pieces hpieces]
  cases cause with
  | none =>
      refine absurd h (outcome_ne_lexical false (fun index => ?_) error)
      rw [Scanner.agree_ofPieces hpieces 0 index]
      exact Queue.exists_answer_ofPieces contents 0 index
  | some cause =>
      by_cases hopens : Opens contents
      · rw [Reader.outcome_of_opens hpieces hopens] at h
        cases h
        rfl
      · -- The reading does not get to the error, and fails as that of the pieces alone.
        obtain ⟨fault, hqueue, hscanner⟩ :=
          Reader.outcome_of_not_opens (δ := δ) hpieces hopens false false
        rw [hscanner] at h
        cases h
        exact absurd hqueue
          (outcome_ne_lexical false (Queue.exists_answer_ofPieces contents 0) error)

/-- A text with a lexical error is not read as a rule. -/
theorem exists_error_of_scan
    {error : SourceError}
    (h : Scanner.scan text = .error error) :
    ∃ cause, (Tree.parse text : Except RuleError (Tree δ)) = .error cause := by
  cases hparse : (Tree.parse text : Except RuleError (Tree δ)) with
  | error cause => exact ⟨cause, rfl⟩
  | ok tree =>
      obtain ⟨name, op, value, hscan, -⟩ := scan_of_parse hparse
      rw [hscan] at h
      cases h

end Scanned

end Rule

/-- The canonical text of a rule is made of the texts of its parts. -/
theorem Tree.text_ofParts
    {δ : Type}
    (name : String)
    (op : Operator)
    (value : Content) :
    (ofParts name op value : Tree δ).text =
      " ".intercalate [(Content.attr name).text, (Content.operator op).text, value.text] := by
  apply String.toList_injective
  simp [text, ofParts, characters, Content.text]

namespace Command

/-- A check of a rule within its limit answers with what the rule is read as. -/
theorem Check.run_outcome
    {check : Check} {rule : String}
    (hrule : check.rule = some rule)
    (hlength : check.settings.lengthError? (trimmed rule) = none) :
    check.run.1 = ((Tree.parse (trimmed rule)).map check.report).mapError .rule := by
  rw [← Rule.ofText_outcome hlength]
  rcases hread : Tree.ofText check.settings (trimmed rule) with ⟨error | tree, events⟩
  all_goals
    simp only [run, hrule, hread]
    rfl

section Listed

variable {rule : String}

/-- The lines of a listing are those of the contents in the trimmed text. -/
theorem list_of_scan
    {contents : List Content}
    (h : Scanner.scan (trimmed rule) = .ok contents) :
    list rule = .ok ((contents.map .piece).map line) := by
  rw [list, h]

/-- A listing fails with the lexical error of the trimmed text, and with no other. -/
theorem list_eq_error_iff
    {error : CommandError} :
    list rule = .error error ↔
      ∃ cause, Scanner.scan (trimmed rule) = .error cause ∧ error = .source cause := by
  cases hscan : Scanner.scan (trimmed rule) with
  | error cause => simp [list, hscan, eq_comm]
  | ok contents => simp [list, hscan]

end Listed

/--
The columns of a line: a number at the end of the first three, a category at
the start of the 28 behind the next one, and a text from the one on whose
number is 33, with spaces everywhere else.
-/
structure InColumns
    (code : Nat)
    (category text : String)
    (line : List Char) :
    Prop where
  number :
    line.take 3 = List.replicate (3 - (Decimal.text code).length) ' ' ++ Decimal.text code
  afterNumber : (line.drop 3).head? = some ' '
  category :
    (line.drop 4).take 28 = category.toList ++ List.replicate (28 - category.length) ' '
  afterCategory : (line.drop 32).head? = some ' '
  text : line.drop 33 = text.toList

/-- No number and no category is wider than its columns. -/
theorem fits_columns
    (token : Token) :
    (Decimal.text token.code).length ≤ 3 ∧ token.describe.length ≤ 28 := by
  have hall :
      ∀ c ∈ Category.all, (Decimal.text c.code).length ≤ 3 ∧ c.describe.length ≤ 28 := by
    decide +kernel
  cases token with
  | finish => decide +kernel
  | piece content =>
      rw [Token.code_piece]
      exact hall content.category (Category.mem_all content.category)

@[simp] theorem toList_padLeft
    (width : Nat)
    (text : String) :
    (padLeft width text).toList = List.replicate (width - text.length) ' ' ++ text.toList := by
  simp [padLeft]

@[simp] theorem toList_padRight
    (width : Nat)
    (text : String) :
    (padRight width text).toList = text.toList ++ List.replicate (width - text.length) ' ' := by
  simp [padRight]

/-- Columns of the right widths are found where they are looked for. -/
theorem columns_append
    {first second : List Char}
    (text : List Char)
    (hfirst : first.length = 3)
    (hsecond : second.length = 28) :
    let line := first ++ ' ' :: (second ++ ' ' :: text)
    line.take 3 = first ∧ (line.drop 3).head? = some ' ' ∧ (line.drop 4).take 28 = second ∧
      (line.drop 32).head? = some ' ' ∧ line.drop 33 = text := by
  intro line
  have hthree : line.drop 3 = ' ' :: (second ++ ' ' :: text) := List.drop_left' hfirst
  have hbehind (count : Nat) :
      line.drop (count + 4) = (second ++ ' ' :: text).drop count := by
    rw [show count + 4 = 3 + (count + 1) by omega, ← List.drop_drop, hthree, List.drop_succ_cons]
  refine ⟨List.take_left' hfirst, ?_, ?_, ?_, ?_⟩
  · rw [hthree, List.head?_cons]
  · rw [hbehind 0, List.drop_zero, List.take_left' hsecond]
  · rw [hbehind 28, List.drop_left' hsecond, List.head?_cons]
  · rw [hbehind 29, List.drop_add_one_eq_tail_drop, List.drop_left' hsecond, List.tail_cons]

theorem inColumns_line
    (token : Token) :
    InColumns token.code token.describe token.text (line token).toList := by
  obtain ⟨hcode, hcategory⟩ := fits_columns token
  have hfirst :
      (padLeft 3 (String.ofList (Decimal.text token.code))).toList.length = 3 := by
    rw [toList_padLeft, List.length_append, List.length_replicate, String.length_ofList,
      String.toList_ofList]
    omega
  have hsecond : (padRight 28 token.describe).toList.length = 28 := by
    rw [toList_padRight, List.length_append, List.length_replicate, String.length_toList]
    omega
  have hline :
      (line token).toList =
        (padLeft 3 (String.ofList (Decimal.text token.code))).toList ++ ' ' ::
          ((padRight 28 token.describe).toList ++ ' ' :: token.text.toList) := by
    simp [line]
  obtain ⟨hnumber, hafter, hname, hbehind, htext⟩ :=
    columns_append token.text.toList hfirst hsecond
  rw [← hline] at hnumber hafter hname hbehind htext
  refine ⟨?_, hafter, ?_, hbehind, htext⟩
  · simpa using hnumber
  · simpa using hname

/-- The numbers of the left child, the root and the right child in a document. -/
structure HasCodes
    (left root right : Nat)
    (value : Json.Value) :
    Prop where
  left : (value.member? "left").bind (·.member? "code") = some (.natural left)
  root : value.member? "code" = some (.natural root)
  right : (value.member? "right").bind (·.member? "code") = some (.natural right)

/-- The nodes of a rule have the numbers of the tokens that they are made from. -/
theorem hasCodes_document
    {δ : Type}
    (name : String)
    (op : Operator)
    (value : Content) :
    HasCodes (Token.code (.piece (.attr name))) (Token.code (.piece (.operator op)))
      (Token.code (.piece value)) (Tree.ofParts name op value : Tree δ).document where
  left := by
    rw [Tree.document_left, Token.code_piece]
    exact Tree.document_code (.leaf (.attr name) none : Tree δ)
  root := by
    rw [Token.code_piece]
    exact Tree.document_code _
  right := by
    rw [Tree.document_right, Token.code_piece]
    exact Tree.document_code (.leaf value none : Tree δ)

/-- What is reported as Json is a document of the tree's document, in both layouts. -/
theorem Check.exists_document
    {check : Check}
    (hjson : check.json = true)
    (tree : Tree Unit) :
    ∃ document,
      check.report tree = .json document ∧
      ∀ other, Json.IsDocument document.toList other ↔ other = tree.document := by
  rw [report, if_pos hjson]
  cases check.pretty with
  | false => exact ⟨tree.json, rfl, fun other => (tree.isDocument_json_iff other).1⟩
  | true => exact ⟨tree.prettyJson, rfl, fun other => (tree.isDocument_json_iff other).2⟩

/--
A check and a listing of one rule agree. The canonical text that a check
answers with is made of the three pieces that the listing shows, each on a line
in columns, and the numbers of the lines are those of the left child, the root
and the right child in the document that the check can print instead. A lexical
error of the check is the error of the listing, and what the listing refuses
the check does not read.
-/
theorem listing_agrees_with_check
    (rule : String)
    (pretty trace : Bool) :
    let check (json : Bool) : Check := ⟨some rule, json, pretty, ⟨trace, none⟩⟩
    (∀ text, (check false).run.1 = .ok (.canonical text) →
      ∃ left root right : Token,
        list rule = .ok [line left, line root, line right] ∧
        (∀ token ∈ [left, root, right],
          InColumns token.code token.describe token.text (line token).toList) ∧
        " ".intercalate [left.text, root.text, right.text] = text ∧
        ∃ document value,
          (check true).run.1 = .ok (.json document) ∧
          (∀ other, Json.IsDocument document.toList other ↔ other = value) ∧
          HasCodes left.code root.code right.code value) ∧
    (∀ json error, (check json).run.1 = .error (.rule (.lexical error)) →
      list rule = .error (.source error)) ∧
    (∀ json error, list rule = .error error →
      ∃ cause, (check json).run.1 = .error cause) := by
  intro check
  have hrun (json : Bool) :
      (check json).run.1 =
        ((Tree.parse (trimmed rule)).map (check json).report).mapError .rule :=
    Check.run_outcome rfl rfl
  refine ⟨?_, ?_, ?_⟩
  · intro text htext
    rw [hrun] at htext
    cases hparse : (Tree.parse (trimmed rule) : Except RuleError (Tree Unit)) with
    | error error =>
        rw [hparse] at htext
        cases htext
    | ok tree =>
        obtain ⟨name, op, value, hscan, rfl⟩ := Rule.scan_of_parse hparse
        rw [hparse] at htext
        cases htext
        obtain ⟨document, hdocument, hiff⟩ :=
          Check.exists_document (show (check true).json = true from rfl)
            (Tree.ofParts name op value)
        refine ⟨.piece (.attr name), .piece (.operator op), .piece value, list_of_scan hscan,
          fun token _ => inColumns_line token, (Tree.text_ofParts name op value).symm,
          document, _, ?_, hiff, hasCodes_document name op value⟩
        rw [hrun, hparse, Except.map, hdocument]
        rfl
  · intro json error herror
    rw [hrun] at herror
    cases hparse : (Tree.parse (trimmed rule) : Except RuleError (Tree Unit)) with
    | error cause =>
        rw [hparse] at herror
        cases herror
        exact list_eq_error_iff.mpr ⟨error, Rule.scan_of_lexical hparse, rfl⟩
    | ok tree =>
        rw [hparse] at herror
        cases herror
  · intro json error herror
    obtain ⟨cause, hscan, -⟩ := list_eq_error_iff.mp herror
    obtain ⟨fault, hparse⟩ := Rule.exists_error_of_scan (δ := Unit) hscan
    rw [hrun, hparse]
    exact ⟨.rule fault, rfl⟩

/-- A check may fail before it comes to a stray sign, or because of it. -/
theorem listing_agrees_with_check_before_stray_sign :
    let check (rule : String) : Check := ⟨some rule, false, false, Settings.default⟩
    let stray (position : Nat) : SourceError := .unexpectedCharacter '+' position
    (check " x+=1%w").run.1 = .ok (.canonical "x += 1%w") ∧
      (∃ left root right : Token,
        list " x+=1%w" = .ok [line left, line root, line right] ∧
        " ".intercalate [left.text, root.text, right.text] = "x += 1%w") ∧
      (check "x +").run.1 = .error (.rule (.lexical (stray 2))) ∧
      list "x +" = .error (.source (stray 2)) ∧
      list "= +" = .error (.source (stray 2)) ∧
      ∃ cause, (check "= +").run.1 = .error cause := by
  intro check stray
  have hread : (check " x+=1%w").run.1 = .ok (.canonical "x += 1%w") := by decide +kernel
  have hlexical : (check "x +").run.1 = .error (.rule (.lexical (stray 2))) := by decide +kernel
  have hlist : list "= +" = .error (.source (stray 2)) := by decide +kernel
  obtain ⟨left, root, right, hlines, -, htext, -⟩ :=
    (listing_agrees_with_check " x+=1%w" false false).1 _ hread
  exact ⟨hread, ⟨left, root, right, hlines, htext⟩, hlexical,
    (listing_agrees_with_check "x +" false false).2.1 false _ hlexical, hlist,
    (listing_agrees_with_check "= +" false false).2.2 false _ hlist⟩

end Command
end LayoutRules
