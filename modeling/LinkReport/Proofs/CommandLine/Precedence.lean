import LinkReport.Proofs.CommandLine.Outcome
import LinkReport.Proofs.Text.Encoding
import Mathlib.Data.List.Nodup
import Mathlib.Data.Set.List

/-!
# Arguments before surroundings

A program reads its arguments before it looks at its surroundings. Either they send it to its
work, and then what becomes of the run is left to the surroundings; or they are answered, and
then no environment and no file has a part in the answer.

* `Program.exists_accepts_iff` the accepted arguments as they are written
* `Program.exists_answer` the answers to all others
* `Program.works_or_answers` which arguments lead to the work, and what the others lead to
-/

namespace LinkReport.CommandLine

/-- The exit code of a run; one that breaks off has that of a crash. -/
def exitCode : Except Filter.Crash Output → Nat
  | .ok out => out.code
  | .error crash => (Output.ofCrash crash).code

namespace Program

variable {p : Program} {arguments : List String}

/-! ## The accepted arguments as they are written -/

theorem written_injective : Function.Injective Flag.written := by
  intro f g h
  cases f <;> cases g <;> first | rfl | exact absurd h (by decide)

theorem exists_accepts_iff :
    (∃ given, p.Accepts arguments given) ↔
      ∃ flags : List String, flags.Nodup ∧ flags ⊆ p.workFlags.map Flag.written ∧
        (arguments = flags ∨ arguments = flags ++ ["--"]) := by
  constructor
  · intro haccepts
    obtain ⟨given, hknown, honce, hwritten⟩ := haccepts
    exact ⟨given.map Flag.written, honce.map written_injective, List.map_subset _ hknown, hwritten⟩
  · intro hflags
    obtain ⟨flags, honce, hknown, hwritten⟩ := hflags
    obtain ⟨given, rfl⟩ : flags ∈ Set.range (List.map Flag.written) := by
      rw [Set.range_list_map]
      intro text htext
      obtain ⟨f, -, hf⟩ := List.mem_map.1 (hknown htext)
      exact ⟨f, hf⟩
    refine ⟨given, fun f hf => ?_, List.Nodup.of_map _ honce, hwritten⟩
    exact (List.mem_map_of_injective written_injective).1 (hknown (List.mem_map_of_mem hf))

theorem demo_accepts_iff :
    (∃ given, demo.Accepts arguments given) ↔
      ∃ flags : List String, flags.Nodup ∧ flags ⊆ ["--json", "--show-config"] ∧
        (arguments = flags ∨ arguments = flags ++ ["--"]) := by
  have hflags : demo.workFlags.map Flag.written = ["--json", "--show-config"] := by decide
  rw [exists_accepts_iff, hflags]

theorem selfTest_accepts_iff :
    (∃ given, selfTest.Accepts arguments given) ↔ arguments = [] ∨ arguments = ["--"] := by
  rw [exists_accepts_iff]
  constructor
  · intro hflags
    obtain ⟨flags, -, hknown, hwritten⟩ := hflags
    have hnone : flags = [] := List.subset_nil.1 hknown
    rwa [hnone] at hwritten
  · intro hwritten
    exact ⟨[], List.nodup_nil, List.nil_subset _, hwritten⟩

/-! ## The answers to other arguments -/

/-- The answer to arguments that do not lead to the work: a text on standard output that was
asked for, or a fault on standard error. -/
inductive Answer (p : Program) : Output → Prop where
  | help : Answer p { code := 0, stdout := p.helpText, stderr := "" }
  | version : Answer p { code := 0, stdout := p.versionText, stderr := "" }
  | refused (fault : ArgumentFault) :
    Answer p { code := 2, stdout := "", stderr := fault.message p }

theorem helpText_ne_empty (p : Program) : p.helpText ≠ "" := by
  cases p <;> decide +kernel

theorem versionText_ne_empty (p : Program) : p.versionText ≠ "" := by
  cases p <;> decide +kernel

theorem message_ne_empty (p : Program) (fault : ArgumentFault) : fault.message p ≠ "" := by
  intro h
  have hlength := congrArg String.length h
  rw [ArgumentFault.message, String.length_append] at hlength
  simp at hlength

/-- Only one of the two outputs says something, and the exit code tells which. -/
theorem Answer.says {out : Output} (h : p.Answer out) :
    (out.code = 0 ∧ (out.stdout = p.helpText ∨ out.stdout = p.versionText) ∧
        out.stdout ≠ "" ∧ out.stderr = "") ∨
      (out.code = 2 ∧ out.stdout = "" ∧ out.stderr ≠ "") := by
  cases h with
  | help => exact .inl ⟨rfl, .inl rfl, p.helpText_ne_empty, rfl⟩
  | version => exact .inl ⟨rfl, .inr rfl, p.versionText_ne_empty, rfl⟩
  | refused fault => exact .inr ⟨rfl, rfl, p.message_ne_empty fault⟩

theorem exists_answer (h : ¬∃ given, p.Accepts arguments given) :
    ∃ out, p.Answer out ∧ ∀ s, p.run arguments s = .ok out := by
  cases hread : p.read arguments with
  | work given => exact absurd ⟨given, read_eq_work_iff.1 hread⟩ h
  | help => exact ⟨_, .help, fun s => by rw [run, hread]⟩
  | version => exact ⟨_, .version, fun s => by rw [run, hread]⟩
  | refused fault => exact ⟨_, .refused fault, fun s => by rw [run, hread]⟩

/-! ## Work or answer -/

/-- With these arguments the program goes on to its work, whatever surrounds it: it starts up,
and leaves behind what its work makes of the startup. -/
def Works (p : Program) (arguments : List String) : Prop :=
  ∃ given, ∀ s : Surroundings, p.run arguments s = s.start.map (p.output given)

/-- Surroundings in which no startup comes to its end. -/
def breakingOff : Surroundings where
  environment := Environment.empty.set Config.logFilterKey (Text.utf8 "warn, é=info".toList)
  directory := none

theorem start_breakingOff : breakingOff.start = .error .insideCharacter := by
  have hconfig : breakingOff.config = ⟨"warn", some "warn, é=info"⟩ := by decide +kernel
  rw [Surroundings.start, hconfig]
  rfl

theorem works_iff : p.Works arguments ↔ ∃ given, p.Accepts arguments given := by
  constructor
  · intro hworks
    by_contra hnot
    obtain ⟨given, hruns⟩ := hworks
    obtain ⟨out, -, hanswer⟩ := exists_answer hnot
    -- an answer does not depend on a startup, but work does
    have hrun := hruns breakingOff
    rw [hanswer, start_breakingOff] at hrun
    cases hrun
  · intro haccepts
    obtain ⟨given, haccepts⟩ := haccepts
    exact ⟨given, run_of_accepts haccepts⟩

theorem Works.exitCode_ne (h : p.Works arguments) (s : Surroundings) :
    exitCode (p.run arguments s) ≠ 2 := by
  obtain ⟨given, hruns⟩ := h
  rw [hruns]
  cases s.start with
  | ok startup =>
    show 0 ≠ 2
    decide
  | error crash =>
    show 101 ≠ 2
    decide

/-- The demonstration goes on to its work exactly if its arguments are its two flags, each at
most once and in any order, and the self-test exactly if there are none; a separator may end
them. No such run ends with exit code 2. All other arguments have one answer in all
surroundings: help or version on standard output, or a fault on standard error. -/
theorem works_or_answers (arguments : List String) :
    (demo.Works arguments ↔
      ∃ flags : List String, flags.Nodup ∧ flags ⊆ ["--json", "--show-config"] ∧
        (arguments = flags ∨ arguments = flags ++ ["--"])) ∧
    (selfTest.Works arguments ↔ arguments = [] ∨ arguments = ["--"]) ∧
    ∀ p : Program,
      (p.Works arguments ∧ ∀ s : Surroundings, exitCode (p.run arguments s) ≠ 2) ∨
      ¬p.Works arguments ∧ ∃ out : Output, (∀ s, p.run arguments s = .ok out) ∧
        ((out.code = 0 ∧ (out.stdout = p.helpText ∨ out.stdout = p.versionText) ∧
            out.stdout ≠ "" ∧ out.stderr = "") ∨
          out.code = 2 ∧ out.stdout = "" ∧ out.stderr ≠ "") := by
  refine ⟨works_iff.trans demo_accepts_iff, works_iff.trans selfTest_accepts_iff, fun p => ?_⟩
  by_cases hworks : p.Works arguments
  · exact .inl ⟨hworks, hworks.exitCode_ne⟩
  · obtain ⟨out, hanswer, hruns⟩ := exists_answer (mt works_iff.2 hworks)
    exact .inr ⟨hworks, out, hruns, hanswer.says⟩

end Program
end LinkReport.CommandLine
