import LinkReport.Proofs.CommandLine.Outcome
import LinkReport.Proofs.Event
import LinkReport.Proofs.Text.Labels
import LinkReport.Session

/-!
# Verdicts

The verdict on two strings, its line, its exit code and what is told of the comparison all say
whether the strings are the same. To one who knows which string was expected the line also tells
the one that was returned, whatever the strings hold.

* `ofShown?_eq_some_iff` the lines from which a verdict is read
* `shown_eq_shown_iff` verdicts with one expected string are told apart by their lines
* `evaluate_agrees` all that is seen of a comparison
-/

namespace LinkReport.Verdict

variable {returned expected : String} {v w : Verdict}

/-! ## Outcomes -/

/-- The verdict with this outcome on two strings, whether or not they are the same. -/
def ofOutcome (passed : Bool) (returned expected : String) : Verdict :=
  if passed then .pass returned expected else .fail returned expected

@[simp] theorem passed_ofOutcome (b : Bool) (returned expected : String) :
    (ofOutcome b returned expected).passed = b := by
  cases b <;> rfl

@[simp] theorem returned_ofOutcome (b : Bool) (returned expected : String) :
    (ofOutcome b returned expected).returned = returned := by
  cases b <;> rfl

@[simp] theorem expected_ofOutcome (b : Bool) (returned expected : String) :
    (ofOutcome b returned expected).expected = expected := by
  cases b <;> rfl

theorem ofOutcome_passed (v : Verdict) : ofOutcome v.passed v.returned v.expected = v := by
  cases v <;> rfl

theorem exitCode_eq_zero_iff : v.exitCode = 0 ↔ v.passed = true := by
  cases v with
  | pass => exact iff_of_true rfl rfl
  | fail => exact iff_of_false Nat.one_ne_zero Bool.false_ne_true

/-! ## Comparing -/

theorem evaluate_eq_ofOutcome (returned expected : String) :
    evaluate returned expected = ofOutcome (decide (returned = expected)) returned expected := by
  simp only [evaluate, ofOutcome, decide_eq_true_eq]

theorem passed_evaluate (returned expected : String) :
    (evaluate returned expected).passed = decide (returned = expected) := by
  rw [evaluate_eq_ofOutcome, passed_ofOutcome]

theorem returned_evaluate (returned expected : String) :
    (evaluate returned expected).returned = returned := by
  rw [evaluate_eq_ofOutcome, returned_ofOutcome]

theorem expected_evaluate (returned expected : String) :
    (evaluate returned expected).expected = expected := by
  rw [evaluate_eq_ofOutcome, expected_ofOutcome]

theorem evaluate_eq_evaluate_iff {returned returned' : String} :
    evaluate returned expected = evaluate returned' expected ↔ returned = returned' := by
  constructor
  · intro h
    have hreturned := congrArg Verdict.returned h
    rwa [returned_evaluate, returned_evaluate] at hreturned
  · rintro rfl
    rfl

/-- A verdict is that on its strings exactly if it passed them for being the same, or failed them
for being different. -/
theorem eq_evaluate_iff :
    v = evaluate v.returned v.expected ↔ (v.passed = true ↔ v.returned = v.expected) := by
  rw [evaluate_eq_ofOutcome]
  constructor
  · intro h
    rw [h, passed_ofOutcome, decide_eq_true_eq, returned_ofOutcome, expected_ofOutcome]
  · intro h
    have hpassed : v.passed = decide (v.returned = v.expected) := by
      rw [Bool.eq_iff_iff, decide_eq_true_eq, h]
    rw [← hpassed, ofOutcome_passed]

theorem evaluate_eq_pass_iff :
    evaluate returned expected = .pass returned expected ↔ returned = expected := by
  have h : pass returned expected = evaluate returned expected ↔
      (true = true ↔ returned = expected) := eq_evaluate_iff (v := .pass returned expected)
  rw [eq_comm, h]
  simp

theorem evaluate_eq_fail_iff :
    evaluate returned expected = .fail returned expected ↔ returned ≠ expected := by
  have h : fail returned expected = evaluate returned expected ↔
      (false = true ↔ returned = expected) := eq_evaluate_iff (v := .fail returned expected)
  rw [eq_comm, h]
  simp

theorem not_evaluate_eq_fail_iff :
    ¬evaluate returned expected = .fail returned expected ↔
      evaluate returned expected = .pass returned expected := by
  rw [evaluate_eq_fail_iff, evaluate_eq_pass_iff, not_not]

theorem exitCode_evaluate_eq_zero_iff :
    (evaluate returned expected).exitCode = 0 ↔
      evaluate returned expected = .pass returned expected := by
  rw [exitCode_eq_zero_iff, passed_evaluate, decide_eq_true_eq, evaluate_eq_pass_iff]

/-! ## Lines -/

/-- What a line with this outcome begins with. -/
def lead (passed : Bool) : String :=
  if passed then "PASS: " else "FAIL: "

/-- What stands between the strings in a line with this outcome. -/
def sign (passed : Bool) : String :=
  if passed then " = " else " != "

theorem toList_shown (v : Verdict) :
    v.shown.toList =
      (lead v.passed).toList ++ v.returned.toList ++ (sign v.passed ++ v.expected).toList := by
  have hshown : v.shown = lead v.passed ++ v.returned ++ sign v.passed ++ v.expected := by
    cases v <;> rfl
  rw [hshown]
  simp only [String.toList_append, List.append_assoc]

/-- The line begins with the outcome. -/
theorem isPrefix_shown_iff : (lead true).toList <+: v.shown.toList ↔ v.passed = true := by
  have hlead : (lead v.passed).toList <+: v.shown.toList := by
    rw [toList_shown, List.append_assoc]
    exact List.prefix_append _ _
  cases hpassed : v.passed with
  | true =>
    rw [hpassed] at hlead
    exact iff_of_true hlead rfl
  | false =>
    rw [hpassed] at hlead
    refine iff_of_false (fun hpass => ?_) Bool.false_ne_true
    have hboth : (lead true).toList <+: (lead false).toList :=
      List.prefix_of_prefix_length_le hpass hlead (by decide)
    revert hboth
    decide

/-! ## Reading back -/

/-- Reads a line with this outcome, for one who knows which string was expected. -/
def readAs? (passed : Bool) (expected line : String) : Option Verdict :=
  (Text.between? (lead passed).toList (sign passed ++ expected).toList line.toList).map
    fun returned => ofOutcome passed (String.ofList returned) expected

theorem readAs?_eq_some_iff {b : Bool} {line : String} :
    readAs? b expected line = some v ↔ v.passed = b ∧ v.expected = expected ∧ v.shown = line := by
  simp only [readAs?, Option.map_eq_some_iff, Text.between?_eq_some_iff]
  constructor
  · rintro ⟨returned, hline, rfl⟩
    refine ⟨passed_ofOutcome .., expected_ofOutcome .., String.toList_inj.1 ?_⟩
    rw [toList_shown, passed_ofOutcome, returned_ofOutcome, expected_ofOutcome, hline,
      String.toList_ofList]
  · rintro ⟨rfl, rfl, rfl⟩
    refine ⟨v.returned.toList, v.toList_shown, ?_⟩
    rw [String.ofList_toList, ofOutcome_passed]

/-- Reads a line, for one who knows which string was expected. -/
def ofShown? (expected line : String) : Option Verdict :=
  (readAs? true expected line).or (readAs? false expected line)

/-- Read are exactly the lines of the verdicts with the expected string. -/
theorem ofShown?_eq_some_iff {line : String} :
    ofShown? expected line = some v ↔ v.expected = expected ∧ v.shown = line := by
  rw [ofShown?, Option.or_eq_some_iff, readAs?_eq_some_iff, readAs?_eq_some_iff]
  constructor
  · rintro (⟨-, h⟩ | ⟨-, -, h⟩)
    · exact h
    · exact h
  · rintro ⟨rfl, rfl⟩
    cases hpassed : v.passed with
    | true => exact .inl ⟨rfl, rfl, rfl⟩
    | false =>
      refine .inr ⟨?_, rfl, rfl, rfl⟩
      rw [Option.eq_none_iff_forall_ne_some]
      intro w hw
      -- the line would begin like that of a verdict that passed
      obtain ⟨hpass, -, hline⟩ := readAs?_eq_some_iff.1 hw
      rw [← isPrefix_shown_iff, hline, isPrefix_shown_iff, hpassed] at hpass
      cases hpass

/-- Verdicts with one expected string are told apart by their lines. -/
theorem shown_eq_shown_iff (h : v.expected = w.expected) : v.shown = w.shown ↔ v = w := by
  constructor
  · intro hshown
    have hv : ofShown? v.expected v.shown = some v := ofShown?_eq_some_iff.2 ⟨rfl, rfl⟩
    have hw : ofShown? v.expected v.shown = some w := ofShown?_eq_some_iff.2 ⟨h.symm, hshown.symm⟩
    exact Option.some.inj (hv.symm.trans hw)
  · rintro rfl
    rfl

/-- To one who does not know the expected string the line does not tell where it starts. -/
example : (evaluate "a" "b != c").shown = (evaluate "a != b" "c").shown := by
  decide

/-! ## What is told of a comparison -/

/-- Nothing is told of strings that are the same. -/
theorem evaluationEvents_eq_nil_iff :
    evaluationEvents returned expected = [] ↔
      evaluate returned expected = .pass returned expected := by
  rw [evaluate_eq_pass_iff, evaluationEvents]
  split
  · next hsame => exact iff_of_true rfl hsame
  · next hdiffer => exact iff_of_false (List.cons_ne_nil _ _) hdiffer

/-- Of strings that differ the mismatch is told, and nothing else. -/
theorem evaluationEvents_of_fail (h : evaluate returned expected = .fail returned expected) :
    evaluationEvents returned expected = [.stringMismatch returned expected] :=
  if_neg (evaluate_eq_fail_iff.1 h)

theorem exists_evaluationEvents_eq_singleton_iff :
    (∃ event, evaluationEvents returned expected = [event]) ↔
      evaluate returned expected = .fail returned expected := by
  constructor
  · rintro ⟨event, hevent⟩
    by_contra hfail
    rw [evaluationEvents_eq_nil_iff.2 (not_evaluate_eq_fail_iff.1 hfail)] at hevent
    cases hevent
  · intro hfail
    exact ⟨_, evaluationEvents_of_fail hfail⟩

theorem eq_stringMismatch_of_mem {event : Event}
    (h : event ∈ evaluationEvents returned expected) :
    event = .stringMismatch returned expected := by
  rw [evaluationEvents] at h
  split at h
  · cases h
  · exact List.mem_singleton.1 h

/-- Recorded is the mismatch, if there is one and the filter admits it. -/
theorem log_evaluationEvents (f : Filter) (returned expected : String) :
    f.log (evaluationEvents returned expected) =
      if evaluate returned expected = .fail returned expected ∧
          f.admits (.stringMismatch returned expected) = true then
        (Event.stringMismatch returned expected).record
      else "" := by
  have hnothing : f.log [] = "" := rfl
  by_cases hfail : evaluate returned expected = .fail returned expected
  · rw [evaluationEvents_of_fail hfail, Filter.log_cons, hnothing, String.append_empty]
    simp only [hfail, true_and]
  · rw [evaluationEvents_eq_nil_iff.2 (not_evaluate_eq_fail_iff.1 hfail), hnothing,
      if_neg fun h => hfail h.1]

/-! ## Agreement -/

/-- A run of the self-test shows the verdict on the string of this build and ends with its code. -/
theorem run_selfTest {arguments : List String} {given : List CommandLine.Flag} {s : Surroundings}
    {out : CommandLine.Output} (haccepts : CommandLine.Program.selfTest.Accepts arguments given)
    (hrun : CommandLine.Program.selfTest.run arguments s = .ok out) :
    out.stdout = ofSelfTest.shown ++ "\n" ∧ out.code = ofSelfTest.exitCode := by
  obtain ⟨startup, -, rfl⟩ := CommandLine.Program.of_run_eq_ok haccepts hrun
  exact ⟨rfl, rfl⟩

/-- The verdict on two strings, its exit code, its line and what is told and recorded of the
comparison agree. A verdict that was made without a comparison is that of one exactly if it says the
truth about its strings. The line tells the returned string to one who knows the expected one, and
so does what the self-test shows. -/
theorem evaluate_agrees :
    (∀ returned expected : String,
      (evaluate returned expected = .pass returned expected ↔
        returned.toUTF8 = expected.toUTF8) ∧
      (evaluate returned expected = .fail returned expected ↔
        returned.toUTF8 ≠ expected.toUTF8) ∧
      ((evaluate returned expected).exitCode = 0 ↔
        evaluate returned expected = .pass returned expected) ∧
      ((evaluate returned expected).exitCode = 0 ↔
        "PASS: ".toList <+: (evaluate returned expected).shown.toList) ∧
      (∀ s : Surroundings, (Session.Query.evaluate returned expected).answer s =
        .ok (.verdict (evaluate returned expected), evaluationEvents returned expected)) ∧
      (evaluationEvents returned expected = [] ↔
        evaluate returned expected = .pass returned expected) ∧
      ((∃ event, evaluationEvents returned expected = [event]) ↔
        evaluate returned expected = .fail returned expected) ∧
      (∀ event ∈ evaluationEvents returned expected,
        event = .stringMismatch returned expected ∧ event.level = .error ∧
          event.message = "string mismatch") ∧
      ∀ f : Filter, f.log (evaluationEvents returned expected) =
        if evaluate returned expected = .fail returned expected ∧
            f.admits (.stringMismatch returned expected) = true then
          (Event.stringMismatch returned expected).record
        else "") ∧
    (∀ v : Verdict, v = evaluate v.returned v.expected ↔
      (v.passed = true ↔ v.returned = v.expected)) ∧
    (∀ expected returned returned' : String,
      ((evaluate returned expected).shown = (evaluate returned' expected).shown ↔
        returned = returned') ∧
      ofShown? expected (evaluate returned expected).shown = some (evaluate returned expected)) ∧
    ∀ (arguments : List String) (given : List CommandLine.Flag) (s : Surroundings)
      (out : CommandLine.Output), CommandLine.Program.selfTest.Accepts arguments given →
      CommandLine.Program.selfTest.run arguments s = .ok out →
      ∃ line, out.stdout = line ++ "\n" ∧ ofShown? magicString line = some ofSelfTest ∧
        out.code = ofSelfTest.exitCode := by
  have hbytes {returned expected : String} :
      returned.toUTF8 = expected.toUTF8 ↔ returned = expected := String.toByteArray_inj
  have hread (returned expected : String) :
      ofShown? expected (evaluate returned expected).shown = some (evaluate returned expected) :=
    ofShown?_eq_some_iff.2 ⟨expected_evaluate returned expected, rfl⟩
  refine ⟨fun returned expected => ⟨?_, ?_, exitCode_evaluate_eq_zero_iff, ?_, fun s => rfl,
    evaluationEvents_eq_nil_iff, exists_evaluationEvents_eq_singleton_iff, ?_,
    fun f => log_evaluationEvents f returned expected⟩, fun v => eq_evaluate_iff,
    fun expected returned returned' => ⟨?_, hread returned expected⟩, ?_⟩
  · rw [hbytes, evaluate_eq_pass_iff]
  · rw [ne_eq, hbytes, evaluate_eq_fail_iff]
  · rw [exitCode_eq_zero_iff]
    exact isPrefix_shown_iff.symm
  · intro event hevent
    obtain rfl := eq_stringMismatch_of_mem hevent
    exact ⟨rfl, rfl, rfl⟩
  · rw [shown_eq_shown_iff ((expected_evaluate _ _).trans (expected_evaluate _ _).symm)]
    exact evaluate_eq_evaluate_iff
  · intro arguments given s out haccepts hrun
    obtain ⟨hstdout, hcode⟩ := run_selfTest haccepts hrun
    exact ⟨ofSelfTest.shown, hstdout, hread magicString magicString, hcode⟩

/-- Strings that hold the signs themselves, and a run in a directory that is gone. -/
theorem evaluate_agrees_signs :
    (evaluate "a = b" "b != a").exitCode ≠ 0 ∧
      (evaluate "a = b" "b != a").shown ≠ (evaluate "b != a" "b != a").shown ∧
      CommandLine.Program.selfTest.Accepts [] [] ∧
      ∃ out line, CommandLine.Program.selfTest.run [] ⟨.empty, none⟩ = .ok out ∧
        out.stdout = line ++ "\n" ∧ ofShown? magicString line = some ofSelfTest ∧
        out.code = 0 := by
  have haccepts : CommandLine.Program.selfTest.Accepts [] [] := ⟨by decide, by decide, .inl rfl⟩
  have hends : ∃ startup, Surroundings.start ⟨.empty, none⟩ = .ok startup := ⟨_, rfl⟩
  obtain ⟨startup, hstart⟩ := hends
  have hrun := CommandLine.Program.run_of_start haccepts hstart
  obtain ⟨hseen, -, hlines, hruns⟩ := evaluate_agrees
  obtain ⟨-, hfail, hcode, -⟩ := hseen "a = b" "b != a"
  obtain ⟨line, hstdout, hread, hout⟩ := hruns [] [] _ _ haccepts hrun
  refine ⟨fun h => ?_, fun h => ?_, haccepts, _, line, hrun, hstdout, hread, hout⟩
  · have hpass := hcode.1 h
    rw [hfail.2 (by decide)] at hpass
    cases hpass
  · exact absurd ((hlines _ _ _).1.1 h) (by decide)

end LinkReport.Verdict
