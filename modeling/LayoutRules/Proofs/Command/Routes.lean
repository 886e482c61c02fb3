import LayoutRules.Command.Program
import LayoutRules.Proofs.Command.Listing
import LayoutRules.Proofs.Rule.Surroundings

/-!
# The routes of a rule into the program

A rule comes as an argument or as the input, and the input may have blanks
around it. Both commands look at the rule without its blanks alone, and both
report what they come to in the same way, so neither the route nor the blanks
can be told from what the program leaves behind.
-/

namespace LayoutRules
namespace Command

section Arguments

/-- An argument that does not begin with a hyphen is plain. -/
theorem ofList_eq_plain
    {text : List Char}
    (h : text.head? ≠ some '-') :
    Argument.ofList text = .plain text := by
  unfold Argument.ofList
  split
  · exact absurd rfl h
  · exact absurd rfl h
  · exact absurd rfl h
  · rfl

/-- A plain argument behind others is the rule of the check that these ask for. -/
theorem Check.ofArguments_append
    {check options : Check} {flags : List (List Char)} {text : List Char}
    (h : check.ofArguments flags = some options)
    (hplain : Argument.ofList text = .plain text) :
    check.ofArguments (flags ++ [text]) = options.takeRule text := by
  fun_induction ofArguments check flags with
  | case1 check =>
      cases h
      simp only [List.nil_append, ofArguments, hplain]
      cases options.takeRule text <;> rfl
  | case2 check argument rest hargument =>
      simp only [List.cons_append, ofArguments, hargument, List.foldlM_append, h]
      exact bind_pure (options.takeRule text)
  | case3 check argument rest other hargument next htaken ih =>
      simp only [List.cons_append, ofArguments, hargument, htaken, ih h]
  | case5 check argument rest letters hargument next hturned ih =>
      simp only [List.cons_append, ofArguments, hargument, hturned, ih h]
  | case7 check argument limit rest next hlimit hargument ih =>
      simp only [List.cons_append, ofArguments, hargument, hlimit, ih h, if_true]
  | case9 check argument value rest limit hvalue next hlimit hargument ih =>
      simp only [List.cons_append, ofArguments, hargument, hvalue, hlimit, ih h, if_true]
  | case13 check argument rest name hname switch hswitch next hturned hargument ih =>
      simp only [List.cons_append, ofArguments, hargument, hname, hswitch, hturned, ih h, if_false]
  | _ => cases h

/-- The flags on a command line ask for a check that is not traced, of the input. -/
structure AskFor (flags : List String) (options : Check) : Prop where
  read : Check.bare.ofArguments (flags.map String.toList) = some options
  noRule : options.rule = none
  noTrace : options.settings.trace = false

/-- A length below 2 ^ 64 is read from its digits. -/
theorem readLength?_text
    {length : Nat}
    (h : length < 2 ^ 64) :
    readLength? (Decimal.text length) = some length := by
  have hdigits := Decimal.within_text length
  have hall : (Decimal.text length).all Char.isDigit = true := List.all_eq_true.mpr hdigits
  simp only [readLength?]
  split
  · next rest htext =>
      rw [htext] at hdigits
      exact absurd (Text.within_cons.mp hdigits).1 (by decide)
  · rw [Decimal.read_text]
    exact if_pos ⟨Decimal.text_ne_nil length, hall, h⟩

theorem ofList_text
    (n : Nat) :
    Argument.ofList (Decimal.text n) = .plain (Decimal.text n) := by
  refine ofList_eq_plain fun hhyphen => ?_
  have hdigit := Decimal.within_text n '-' (List.mem_of_head? hhyphen)
  exact absurd hdigit (by decide)

section Flags

variable {check : Check}

/-- A long name turns its switch on. -/
theorem Check.ofArguments_switch
    {turned : Check} {argument name : List Char} {switch : Switch}
    (hargument : Argument.ofList argument = .long name none)
    (hname : name ≠ "max-len".toList)
    (hswitch : Switch.ofName? name = some switch)
    (hturned : check.turnOn switch = some turned)
    (rest : List (List Char)) :
    check.ofArguments (argument :: rest) = turned.ofArguments rest := by
  simp only [ofArguments, hargument, hname, hswitch, hturned, if_false]

theorem Check.ofArguments_limit
    {length : Nat}
    (hlength : length < 2 ^ 64)
    (hnone : check.settings.maxLength = none)
    (rest : List (List Char)) :
    check.ofArguments ("--max-len".toList :: Decimal.text length :: rest) =
      { check with settings := check.settings.withMaxLength length }.ofArguments rest := by
  have hargument : Argument.ofList "--max-len".toList = .long "max-len".toList none := by decide
  simp only [ofArguments, hargument, ofList_text, limit, hnone, readLength?_text hlength, if_true]

/-- Every choice of the flags but the trace can be made on a command line. -/
theorem exists_askFor
    (json pretty : Bool)
    {maxLength : Option Nat}
    (h : ∀ length ∈ maxLength, length < 2 ^ 64) :
    ∃ flags, AskFor flags ⟨none, json, pretty, ⟨false, maxLength⟩⟩ := by
  obtain ⟨limits, hlimits⟩ :
      ∃ limits, ∀ json pretty,
        Check.ofArguments ⟨none, json, pretty, Settings.default⟩ limits =
          some ⟨none, json, pretty, ⟨false, maxLength⟩⟩ := by
    cases maxLength with
    | none => exact ⟨[], fun json pretty => rfl⟩
    | some length =>
        exact ⟨_, fun json pretty => Check.ofArguments_limit (h length rfl) rfl []⟩
  obtain ⟨layouts, hlayouts⟩ :
      ∃ layouts, ∀ json,
        Check.ofArguments ⟨none, json, false, Settings.default⟩ layouts =
          some ⟨none, json, pretty, ⟨false, maxLength⟩⟩ := by
    cases pretty with
    | false => exact ⟨limits, fun json => hlimits json false⟩
    | true =>
        refine ⟨"--pretty".toList :: limits, fun json => ?_⟩
        have hargument : Argument.ofList "--pretty".toList = .long "pretty".toList none := by
          decide
        have hswitch : Switch.ofName? "pretty".toList = some .pretty := by decide
        exact (Check.ofArguments_switch hargument (by decide) hswitch rfl limits).trans
          (hlimits json true)
  obtain ⟨formats, hformats⟩ :
      ∃ formats,
        Check.bare.ofArguments formats = some ⟨none, json, pretty, ⟨false, maxLength⟩⟩ := by
    cases json with
    | false => exact ⟨layouts, hlayouts false⟩
    | true =>
        refine ⟨"--json".toList :: layouts, ?_⟩
        have hargument : Argument.ofList "--json".toList = .long "json".toList none := by decide
        have hswitch : Switch.ofName? "json".toList = some .json := by decide
        exact (Check.ofArguments_switch hargument (by decide) hswitch rfl layouts).trans
          (hlayouts true)
  refine ⟨formats.map String.ofList, ?_, rfl, rfl⟩
  have hlists : (formats.map String.ofList).map String.toList = formats := by
    rw [List.map_map]
    exact (List.map_congr_left fun flag _ => String.toList_ofList).trans formats.map_id
  rw [hlists, hformats]

end Flags

end Arguments

section Routes

variable {rule front back : String}

/-- Blanks around a rule are passed over with its own. -/
theorem trimmed_append
    (hfront : Text.Within Text.isBlank front.toList)
    (hback : Text.Within Text.isBlank back.toList) :
    trimmed (front ++ rule ++ back) = trimmed rule := by
  rw [trimmed, trimmed, String.toList_append, String.toList_append,
    Text.trim_append_blanks _ hback, Text.trim_blanks_append _ hfront]

/-- The text of the input is found again from its bytes. -/
theorem ruleText_toUTF8
    (text : String) :
    ruleText none (some text.toUTF8) = .ok (some text) := by
  have htext : String.fromUTF8? text.toUTF8 = some text := by
    simp only [String.fromUTF8?, String.toUTF8_eq_toByteArray, dif_pos text.isValidUTF8]
    rfl
  rw [ruleText, htext]

/-- What a command leaves behind that logs nothing. -/
def reported : Except CommandError (List String) → Outcome
  | .ok lines => .success lines []
  | .error error => .failure error []

/-- The check of a rule with the flags of another check. -/
def Check.withRule (options : Check) (rule : String) : Check :=
  { options with rule := some rule }

/-- An untraced check leaves behind what its rule comes to, by whichever route it came. -/
theorem Check.outcome_of_ruleText
    {options : Check} {input : Option ByteArray}
    (htrace : options.settings.trace = false)
    (h : ruleText options.rule input = .ok (some rule)) :
    options.outcome input =
      reported ((options.withRule rule).run.1.map fun report : Report => [report.text]) := by
  have hlog (events : List Event) : options.log events = [] := by
    rw [log, htrace, if_neg Bool.false_ne_true]
  rw [outcome, h, withRule]
  rcases hrun : Check.run { options with rule := some rule } with ⟨error | report, events⟩
  · simp only [hrun, hlog]
    rfl
  · simp only [hrun, hlog]
    rfl

/-- A listing leaves behind what its rule comes to, by whichever route it came. -/
theorem listOutcome_of_ruleText
    {argument : Option String} {input : Option ByteArray}
    (h : ruleText argument input = .ok (some rule)) :
    listOutcome argument input = reported (list rule) := by
  rw [listOutcome, h]
  cases hlist : list rule with
  | error error => simp only [hlist, reported]
  | ok lines => simp only [hlist, reported]

/-- A check comes to the same for all rules with the same trimmed text. -/
theorem Check.run_congr
    {other : String}
    (options : Check)
    (h : trimmed other = trimmed rule) :
    (options.withRule other).run = (options.withRule rule).run := by
  simp only [run, withRule, h]
  rfl

theorem list_congr
    {other : String}
    (h : trimmed other = trimmed rule) :
    list other = list rule := by
  rw [list, list, h]

end Routes

section Lines

variable {options : Check} {flags : List String} {input : Option ByteArray} {rule : String}

/-- A command line with the rule on it leaves behind what the rule comes to. -/
theorem run_check_argument
    (hflags : AskFor flags options)
    (hrule : rule.toList.head? ≠ some '-') :
    run ("check" :: (flags ++ [rule])) input =
      reported ((options.withRule rule).run.1.map fun report : Report => [report.text]) := by
  have harguments :
      Check.bare.ofArguments ((flags ++ [rule]).map String.toList) =
        some (options.withRule rule) := by
    rw [List.map_append, List.map_singleton,
      Check.ofArguments_append hflags.read (ofList_eq_plain hrule), Check.takeRule, hflags.noRule,
      String.ofList_toList]
    rfl
  have hinvocation :
      Invocation.ofArguments? (("check" :: (flags ++ [rule])).map String.toList) =
        some (.check (options.withRule rule)) := by
    rw [List.map_cons, Invocation.ofArguments?, if_pos rfl, harguments]
    rfl
  have hrouted : ruleText (options.withRule rule).rule input = .ok (some rule) := rfl
  have htrace : (options.withRule rule).settings.trace = false := hflags.noTrace
  have houtcome := Check.outcome_of_ruleText htrace hrouted
  rw [run, hinvocation]
  exact houtcome

/-- A command line without a rule leaves behind what the text of the input comes to. -/
theorem run_check_input
    (hflags : AskFor flags options)
    (text : String) :
    run ("check" :: flags) (some text.toUTF8) =
      reported ((options.withRule text).run.1.map fun report : Report => [report.text]) := by
  have hinvocation :
      Invocation.ofArguments? (("check" :: flags).map String.toList) = some (.check options) := by
    rw [List.map_cons, Invocation.ofArguments?, if_pos rfl, hflags.read]
    rfl
  have hrouted : ruleText options.rule (some text.toUTF8) = .ok (some text) := by
    rw [hflags.noRule, ruleText_toUTF8]
  rw [run, hinvocation]
  exact Check.outcome_of_ruleText hflags.noTrace hrouted

theorem run_tokens_argument
    (hrule : rule.toList.head? ≠ some '-') :
    run ["tokens", rule] input = reported (list rule) := by
  have harguments : listArguments none [rule.toList] = some (some rule.toList) := by
    simp only [listArguments, ofList_eq_plain hrule]
  have hinvocation :
      Invocation.ofArguments? (["tokens", rule].map String.toList) = some (.list (some rule)) := by
    have hcheck : "tokens".toList ≠ "check".toList := by decide
    rw [List.map_cons, Invocation.ofArguments?, if_neg hcheck, if_pos rfl, List.map_singleton,
      harguments, Option.map_some, Option.map_some, String.ofList_toList]
  have hrouted : ruleText (some rule) input = .ok (some rule) := rfl
  rw [run, hinvocation]
  exact listOutcome_of_ruleText hrouted

theorem run_tokens_input
    (text : String) :
    run ["tokens"] (some text.toUTF8) = reported (list text) :=
  listOutcome_of_ruleText (ruleText_toUTF8 text)

end Lines

/--
Neither the blanks around a rule nor its route into the program matter. A text
is read as its trimmed text is, as the same tree or with the same error, but
that the position in a lexical error counts the blanks in front. A command with
a rule as its argument leaves behind what it does when the rule is its input,
with any blanks around it: the answer and the status 0, or nothing but the
message of the error and the status 1. This holds for a listing, and for a
check with any flags that do not trace it.
-/
theorem blanks_and_route_do_not_matter :
    (∀ rule : String,
      (Tree.parse rule : Except RuleError (Tree Unit)) =
        (Tree.parse (trimmed rule)).mapError
          (RuleError.shift (rule.toList.takeWhile Text.isBlank).length)) ∧
    (∀ (json pretty : Bool) (maxLength : Option Nat),
      (∀ length ∈ maxLength, length < 2 ^ 64) →
      ∃ flags, AskFor flags ⟨none, json, pretty, ⟨false, maxLength⟩⟩) ∧
    (∀ (flags : List String) (options : Check) (rule front back : String)
        (input : Option ByteArray),
      AskFor flags options → rule.toList.head? ≠ some '-' →
      Text.Within Text.isBlank front.toList → Text.Within Text.isBlank back.toList →
      let outcome := run ("check" :: (flags ++ [rule])) input
      run ("check" :: flags) (some rule.toUTF8) = outcome ∧
      run ("check" :: flags) (some (front ++ rule ++ back).toUTF8) = outcome ∧
      (∀ report, (options.withRule rule).run.1 = .ok report →
        outcome = ⟨0, report.text ++ "\n", "", []⟩) ∧
      (∀ error, (options.withRule rule).run.1 = .error error →
        outcome = ⟨1, "", error.message ++ "\n", []⟩)) ∧
    (∀ (rule front back : String) (input : Option ByteArray),
      rule.toList.head? ≠ some '-' →
      Text.Within Text.isBlank front.toList → Text.Within Text.isBlank back.toList →
      let outcome := run ["tokens", rule] input
      run ["tokens"] (some rule.toUTF8) = outcome ∧
      run ["tokens"] (some (front ++ rule ++ back).toUTF8) = outcome ∧
      (∀ lines, list rule = .ok lines →
        outcome = ⟨0, String.join (lines.map (· ++ "\n")), "", []⟩) ∧
      (∀ error, list rule = .error error →
        outcome = ⟨1, "", error.message ++ "\n", []⟩)) := by
  refine ⟨Rule.parse_trimmed, fun json pretty maxLength => exists_askFor json pretty, ?_, ?_⟩
  · intro flags options rule front back input hflags hrule hfront hback outcome
    have hargument : outcome = _ := run_check_argument hflags hrule
    refine ⟨?_, ?_, ?_, ?_⟩
    · rw [run_check_input hflags, hargument]
    · rw [run_check_input hflags, options.run_congr (trimmed_append hfront hback), hargument]
    · intro report hreport
      rw [hargument, hreport]
      have hline : String.join [asLine report.text] = report.text ++ "\n" := String.empty_append
      exact congrArg (fun output => Outcome.mk 0 output "" []) hline
    · intro error herror
      rw [hargument, herror]
      rfl
  · intro rule front back input hrule hfront hback outcome
    have hargument : outcome = _ := run_tokens_argument hrule
    refine ⟨?_, ?_, ?_, ?_⟩
    · rw [run_tokens_input, hargument]
    · rw [run_tokens_input, list_congr (trimmed_append hfront hback), hargument]
    · intro lines hlines
      rw [hargument, hlines]
      rfl
    · intro error herror
      rw [hargument, herror]
      rfl

/-- A limit of three bytes lets a rule of three characters through, whatever is around it. -/
theorem blanks_and_route_do_not_matter_before_stray_sign :
    let stray (position : Nat) : SourceError := .unexpectedCharacter '+' position
    let failed : CommandError := .rule (.lexical (stray 2))
    let outcome := run ["check", "--max-len", "3", "x +"] none
    (Tree.parse "\t x +" : Except RuleError (Tree Unit)) = .error (.lexical (stray 4)) ∧
      run ["check", "--max-len", "3"] (some ("\t " ++ "x +" ++ "\u2003\n").toUTF8) = outcome ∧
      outcome = ⟨1, "", failed.message ++ "\n", []⟩ ∧
      run ["tokens"] (some ("\t " ++ "nil" ++ "\u2003\n").toUTF8) = run ["tokens", "nil"] none := by
  intro stray failed outcome
  have hblank (first second : Char) (hfirst : Text.isBlank first = true)
      (hsecond : Text.isBlank second = true) : Text.Within Text.isBlank [first, second] :=
    Text.within_cons.mpr ⟨hfirst, Text.within_cons.mpr ⟨hsecond, Text.within_nil⟩⟩
  have hfront : Text.Within Text.isBlank "\t ".toList :=
    hblank '\t' ' ' (by decide) (by decide)
  have hback : Text.Within Text.isBlank "\u2003\n".toList :=
    hblank '\u2003' '\n' (by decide) (by decide)
  have hflags : AskFor ["--max-len", "3"] ⟨none, false, false, ⟨false, some 3⟩⟩ :=
    ⟨by decide +kernel, rfl, rfl⟩
  have hparse : (Tree.parse (trimmed "\t x +") : Except RuleError (Tree Unit)) =
      .error (.lexical (stray 2)) := by
    decide +kernel
  have hfailed :
      (Check.withRule ⟨none, false, false, ⟨false, some 3⟩⟩ "x +").run.1 = .error failed := by
    decide +kernel
  obtain ⟨hblanks, -, hcheck, htokens⟩ := blanks_and_route_do_not_matter
  obtain ⟨-, hpiped, -, herror⟩ := hcheck _ _ "x +" _ _ none hflags (by decide) hfront hback
  refine ⟨?_, hpiped, herror failed hfailed, (htokens "nil" _ _ none (by decide) hfront hback).2.1⟩
  rw [hblanks, hparse]
  decide +kernel

end Command
end LayoutRules
