import Linewise.Proofs.Trace
import Linewise.Proofs.Warnings

/-!
What the report of an error says about where it was raised. An error is reported for the number of
its line in the innermost block around it, where the block's blank lines are not counted. So a
report names the place of the line in the program just if the line stands outside all blocks.
-/

namespace Linewise

/-! ## Exits -/

def Host.NeverExits {World : Type} (host : Host World) : Prop :=
  ∀ prompt machine world code, (host.ask prompt machine world).1 ≠ .exit code

theorem Console.host_neverExits : Console.host.NeverExits := by
  intro prompt machine console code
  cases input : console.input with
  | nil => simp [host, readLine, write, input]
  | cons head tail => simp [host, readLine, write, input]

theorem Line.exit_eq_zero [Evaluator] {World : Type} {host : Host World} (never : host.NeverExits)
    {line : Text} {machine after : Machine} {world later : World} {code : Nat}
    (executed : execute host line machine world = (.exited code, after, later)) : code = 0 := by
  have outcome := congrArg Prod.fst executed
  unfold execute carryOut at outcome
  repeat' split at outcome
  · cases outcome
  · cases outcome
  · next action _ =>
      cases action with
      | listen name type prompt =>
          have asked :=
            never prompt (machineAfter line machine) (worldAfter host line machine world)
          rw [perform] at outcome
          unfold listen at outcome
          generalize host.ask prompt _ _ = result at outcome asked
          rcases result with ⟨reply, given, spent⟩
          cases reply with
          | refused cause => cases outcome
          | exit code => exact absurd rfl (asked code)
          | entered text => cases value : enteredValue type text <;> simp [value] at outcome
      | draw lottery type target =>
          simp only [perform, draw] at outcome
          repeat' split at outcome
          all_goals cases outcome
      | finish message => cases message <;> cases outcome <;> rfl
      | _ => cases outcome
  · cases outcome

/-! ## Complaints -/

theorem Console.errors_report (text : Text) (console : Console) :
    (Console.host.report text console).errors = console.errors ++ (text ++ ['\n']) := by
  simp [Host.report, Console.host, Console.errors]

namespace Program

open PlacedLine

variable {World : Type}

theorem Traced.exit_eq_zero [Evaluator] {host : Host World} (never : host.NeverExits)
    {segment : Segment}
    {machine after : Machine} {world spent : World} {conclusion : Conclusion} {code : Nat}
    (traced : Traced host segment machine world conclusion after spent)
    (exited : conclusion = .exited code) : code = 0 := by
  induction traced with
  | finished | refused | undecided | chosen | loopUndecided | loopDone | loopLimited => cases exited
  | skipped _ _ induction | line _ _ _ induction | block _ _ _ _ induction
  | blockEnded _ _ _ induction | chosenEnded _ _ _ induction | round _ _ _ _ induction
  | roundEnded _ _ _ induction => exact induction exited
  | @lineEnded _ _ _ _ _ _ _ _ _ outcome _ executed _ =>
      cases outcome with
      | done | failed error => cases exited
      | exited =>
          cases exited
          exact Line.exit_eq_zero never executed

/-! ## Places and numbers -/

/-- The lines stand in the program: outside all blocks they are its first lines, and inside a block
some of the lines after its first, perhaps without the blanks at their ends. -/
def Listed (source : Text) : Nat → List PlacedLine → Prop
  | 0, lines => lines <+: PlacedLine.ofSource source
  | _ + 1, lines => (lines.map stripped).Sublist ((PlacedLine.ofSource source).tail.map stripped)

def Site.Listed (source : Text) (site : Site) : Prop :=
  Program.Listed source site.depth (site.before ++ [site.line])

def Segment.Listed (source : Text) : Segment → Prop
  | sequence depth before lines => Program.Listed source depth (before ++ lines)
  | branch header _ consequence alternative =>
      header.Listed source ∧ Program.Listed source (header.depth + 1) consequence ∧
        Program.Listed source (header.depth + 1) alternative
  | loop header _ body _ _ => header.Listed source ∧ Program.Listed source (header.depth + 1) body

namespace Listed

variable {source : Text} {depth : Nat}

theorem left {lines others : List PlacedLine} (listed : Listed source depth (lines ++ others)) :
    Listed source depth lines := by
  cases depth with
  | zero => exact (List.prefix_append lines others).trans listed
  | succ depth => exact ((List.sublist_append_left lines others).map stripped).trans listed

theorem asBlock {before rest lines : List PlacedLine} {header : PlacedLine}
    (listed : Listed source depth (before ++ header :: rest)) (sub : lines.Sublist rest) :
    Listed source (depth + 1) (asBlock lines) := by
  have shorter : ((PlacedLine.asBlock lines).map stripped).Sublist (rest.map stripped) := by
    have same : stripped ∘ stripped = stripped := by
      funext line
      simp [stripped]
    have fewer : ((PlacedLine.asBlock lines).map stripped).Sublist
        ((lines.map stripped).map stripped) := List.filter_sublist.map stripped
    rw [List.map_map, same] at fewer
    exact fewer.trans (sub.map stripped)
  have last : rest.Sublist (header :: rest) := List.sublist_cons_self header rest
  apply shorter.trans
  cases depth with
  | zero =>
      apply List.Sublist.map
      have behind : rest.Sublist (before ++ header :: rest).tail := by
        cases before with
        | nil => exact .refl rest
        | cons first others => exact last.trans (List.sublist_append_right others _)
      exact behind.trans (List.IsPrefix.sublist listed).tail
  | succ depth =>
      exact ((last.trans (List.sublist_append_right before _)).map stripped).trans listed

theorem right {before rest : List PlacedLine} {header : PlacedLine}
    (listed : Listed source depth (before ++ header :: rest)) :
    (⟨depth, before, header⟩ : Site).Listed source := by
  rw [List.append_cons] at listed
  exact listed.left

end Listed

theorem Segment.Listed.ofBlock {source : Text} {depth : Nat} {before body rest : List PlacedLine}
    {header : PlacedLine}
    (listed : Program.Listed source depth (before ++ header :: (body ++ rest)))
    (command : Command) (condition : Text) :
    (Segment.ofBlock ⟨depth, before, header⟩ command condition body).Listed source := by
  have inside : ∀ lines : List PlacedLine, lines.Sublist body →
      Program.Listed source (depth + 1) (PlacedLine.asBlock lines) := by
    intro lines sub
    exact listed.asBlock (sub.trans (List.sublist_append_left body rest))
  rw [Segment.ofBlock]
  split
  · exact ⟨listed.right, inside _ (List.take_sublist _ _), inside _ (List.drop_sublist _ _)⟩
  · exact ⟨listed.right, inside _ (.refl body)⟩

theorem Traced.site_listed [Evaluator] {host : Host World} {source : Text} {segment : Segment}
    {machine after : Machine} {world spent : World} {conclusion : Conclusion}
    (traced : Traced host segment machine world conclusion after spent)
    (listed : segment.Listed source) {site : Site} {error : Error}
    (raised : conclusion = .raised site error) : site.Listed source := by
  induction traced with
  | finished | chosen | loopDone => cases raised
  | skipped _ _ induction | line _ _ _ induction =>
      apply induction _ raised
      rw [Segment.Listed, List.append_assoc]
      exact listed
  | refused =>
      cases raised
      exact Listed.right listed
  | @lineEnded _ _ _ _ _ _ _ _ _ outcome =>
      cases outcome with
      | done | exited code => cases raised
      | failed error =>
          cases raised
          exact Listed.right listed
  | block _ _ _ _ induction =>
      apply induction _ raised
      rw [Segment.Listed, List.append_assoc, List.cons_append, List.append_assoc]
      exact listed
  | blockEnded _ _ _ induction => exact induction (.ofBlock listed _ _) raised
  | undecided =>
      cases raised
      exact listed.1
  | @chosenEnded _ _ _ _ _ _ _ _ truth _ _ _ _ induction =>
      apply induction _ raised
      cases truth with
      | true => exact listed.2.1
      | false => exact listed.2.2
  | loopUndecided | loopLimited =>
      cases raised
      exact listed.1
  | round _ _ _ _ induction => exact induction listed raised
  | roundEnded _ _ _ induction => exact induction listed.2 raised

private theorem length_le_of_increasing {numbers : List Nat} {start last : Nat}
    (increasing : (numbers ++ [last]).Pairwise (· < ·))
    (least : ∀ number ∈ numbers ++ [last], start ≤ number) : start + numbers.length ≤ last := by
  induction numbers generalizing start with
  | nil => exact least last List.mem_cons_self
  | cons first others induction =>
      rw [List.cons_append, List.pairwise_cons] at increasing
      have positive := least first List.mem_cons_self
      have shorter : start + 1 + others.length ≤ last := by
        apply induction increasing.2
        intro number member
        have later := increasing.1 number member
        omega
      rw [List.length_cons]
      omega

namespace Site.Listed

variable {source : Text} {site : Site} (listed : site.Listed source)

include listed

theorem number_eq (outside : site.depth = 0) : site.number = site.line.place := by
  rw [Site.Listed, outside] at listed
  rcases listed with ⟨more, whole⟩
  have places := (places_ofSource source).symm.trans (congrArg (List.map place) whole.symm)
  rw [List.append_assoc, List.map_append] at places
  rcases List.range'_eq_append_iff.mp places with ⟨length, _, before, after⟩
  have passed := congrArg List.length before
  rw [List.length_map, List.length_range'] at passed
  have first := (List.range'_eq_cons_iff.mp after.symm).1
  rw [number, passed]
  omega

theorem number_lt (inside : site.depth ≠ 0) : site.number < site.line.place := by
  rcases Nat.exists_eq_succ_of_ne_zero inside with ⟨depth, deep⟩
  rw [Site.Listed, deep] at listed
  have same : place ∘ stripped = place := rfl
  have places := List.Sublist.map place listed
  rw [List.map_map, List.map_map, same, List.map_tail, places_ofSource, List.tail_range',
    List.map_append] at places
  have increasing := (List.pairwise_lt_range' 1).sublist places
  have enough := length_le_of_increasing increasing fun number member =>
    (List.mem_range'_1.mp (places.subset member)).1
  rw [List.length_map] at enough
  rw [number]
  omega

theorem place_eq_iff : site.line.place = site.number ↔ site.depth = 0 := by
  constructor
  · intro same
    by_contra inside
    have less := listed.number_lt inside
    omega
  · intro outside
    exact (listed.number_eq outside).symm

theorem exists_text : ∃ text, (Text.lines source)[site.line.place - 1]? = some text ∧
    Text.strip text = Text.strip site.line.text := by
  have member : site.line.stripped ∈ (PlacedLine.ofSource source).map stripped := by
    have last : site.line ∈ site.before ++ [site.line] := by simp
    rw [Site.Listed] at listed
    cases depth : site.depth with
    | zero =>
        rw [depth] at listed
        exact List.mem_map_of_mem (List.IsPrefix.subset listed last)
    | succ outer =>
        rw [depth] at listed
        have present := List.Sublist.subset listed (List.mem_map_of_mem last)
        exact List.map_subset _ (List.tail_sublist _).subset present
  rcases List.mem_map.mp member with ⟨original, present, same⟩
  rcases List.mem_map.mp present with ⟨⟨text, place⟩, found, rfl⟩
  have position := (List.mk_mem_zipIdx_iff_le_and_getElem?_sub.mp found).2
  simp only [stripped, PlacedLine.mk.injEq] at same
  rw [← same.2]
  exact ⟨text, position, same.1⟩

end Site.Listed

/-! ## Reports -/

def reportStart (number : Nat) : Text :=
  "LINE ".toList ++ Text.ofNat number ++ " -> ERROR: ".toList

theorem reportText_of_ne_fault {error : Error} (command : ∀ cause, error ≠ .fault cause)
    (number : Nat) : reportText (some number) error = reportStart number ++ error.message := by
  cases error with
  | fault cause => exact absurd rfl (command cause)
  | _ => rfl

private theorem before_reportStart (number : Nat) (rest : Text) :
    Text.before ' ' ((reportStart number ++ rest).drop 5) = Text.ofNat number := by
  have mark : "LINE ".toList.length = 5 := rfl
  unfold reportStart
  rw [List.append_assoc, List.append_assoc, List.drop_left' mark, Text.before,
    List.takeWhile_append_of_pos]
  · exact List.append_nil _
  · intro char member
    have digit := Nat.isDigit_of_mem_toDigits (by decide) (by decide) member
    simp only [bne_iff_ne]
    rintro rfl
    cases digit

/-- A report names the number just if it is made for it, and for no fault outside any command. -/
theorem reportStart_prefix_iff {number other : Nat} {error : Error} :
    reportStart number <+: reportText (some other) error ↔
      number = other ∧ ∀ cause, error ≠ .fault cause := by
  constructor
  · intro start
    have command : ∀ cause, error ≠ .fault cause := by
      rintro cause rfl
      rcases start with ⟨rest, whole⟩
      have heads : some 'L' = some 'E' := congrArg List.head? whole
      exact absurd heads (by decide)
    rw [reportText_of_ne_fault command] at start
    rcases start with ⟨rest, whole⟩
    have digits := congrArg (fun text => Text.before ' ' (text.drop 5)) whole
    simp only [before_reportStart] at digits
    exact ⟨Text.ofNat_injective digits, command⟩
  · rintro ⟨rfl, command⟩
    rw [reportText_of_ne_fault command]
    exact List.prefix_append _ _

section Evaluated

variable [Evaluator]

/-- Up to the report there are only warnings. -/
theorem Traced.warned {segment : Segment} {machine after : Machine} {console later : Console}
    {conclusion : Conclusion}
    (traced : Traced Console.host segment machine console conclusion after later) :
    console.Warned later :=
  traced.keeps console.Warned
    (fun code machine world before => before.trans (Line.warned_execute code machine world))
    (fun condition machine world before =>
      before.trans (warned_worldAfter condition machine world))
    (Console.warned_of_eq rfl)

theorem Traced.errors_eq {source : Text} {machine after : Machine} {console later : Console}
    {site : Site} {error : Error}
    (traced : Traced Console.host (.ofSource source) machine console (.raised site error) after
      later)
    (finished : error ≠ .unfinished) :
    (run Console.host source machine console).2.2.errors =
      later.errors ++ (reportText (some site.number) error ++ ['\n']) := by
  rw [traced.run_eq, Conclusion.result, fail_eq finished, Console.errors_report]

/-- A program stops with an error just if one is raised at a site of the program. It is then
reported, after nothing but warnings, for the number of the line in the innermost block around it,
which is less than the line's place unless there is no block. So the report begins with the place of
the line just if the line stands outside all blocks, and a command or a block has failed there. -/
theorem report_names_place_iff (source : Text) (machine : Machine) (console : Console) :
    ((run Console.host source machine console).1 = .exited 1 ↔
      ∃ site error after later, error ≠ .unfinished ∧
        Traced Console.host (.ofSource source) machine console (.raised site error) after
          later) ∧
    ∀ site error after later, error ≠ .unfinished →
      Traced Console.host (.ofSource source) machine console (.raised site error) after later →
        console.Warned later ∧
          (run Console.host source machine console).2.2.errors =
            later.errors ++ (reportText (some site.number) error ++ ['\n']) ∧
          (∃ text, (Text.lines source)[site.line.place - 1]? = some text ∧
            Text.strip text = Text.strip site.line.text) ∧
          (if site.depth = 0 then site.number = site.line.place
            else site.number < site.line.place) ∧
          (reportStart site.line.place <+: reportText (some site.number) error ↔
            site.depth = 0 ∧ ∀ cause, error ≠ .fault cause) := by
  constructor
  · constructor
    · intro stopped
      rcases exists_traced Console.host source machine console with
        ⟨conclusion, after, later, traced⟩
      rw [traced.run_eq] at stopped
      cases conclusion with
      | done => cases stopped
      | exited code =>
          cases stopped
          exact absurd (traced.exit_eq_zero Console.host_neverExits rfl) (by decide)
      | raised site error =>
          refine ⟨site, error, after, later, ?_, traced⟩
          rintro rfl
          cases stopped
    · rintro ⟨site, error, after, later, finished, traced⟩
      rw [traced.run_eq, Conclusion.result, fail_eq finished]
  · intro site error after later finished traced
    have listed : site.Listed source := traced.site_listed List.prefix_rfl rfl
    refine ⟨traced.warned, traced.errors_eq finished, listed.exists_text, ?_, ?_⟩
    · split
      · next outside => exact listed.number_eq outside
      · next inside => exact listed.number_lt inside
    · rw [reportStart_prefix_iff, listed.place_eq_iff]

end Evaluated

def nestedMistake : Text := "IF true DO\n\nIF true DO\nFOO\nENDO\nENDO".toList

theorem report_names_place_iff_nested :
    ∃ site error after later, site.depth = 2 ∧ site.line.place = 4 ∧ site.number = 1 ∧
      error ≠ .unfinished ∧
      Traced Console.host (.ofSource nestedMistake) .empty (.start [] []) (.raised site error) after
        later ∧
      (run Console.host nestedMistake .empty (.start [] [])).2.2.errors =
        "LINE 1 -> ERROR: Unknown command: foo\n".toList ∧
      ¬ reportStart site.line.place <+: reportText (some site.number) error := by
  have first : Condition.holds Machine.empty.bindings "true".toList = .ok true := by
    decide +kernel
  have second : Condition.holds Machine.empty.enter.bindings "true".toList = .ok true := by
    decide +kernel
  have untouched : Condition.effects Machine.empty.bindings "true".toList = .none := by
    decide +kernel
  have untouchedInside : Condition.effects Machine.empty.enter.bindings "true".toList = .none := by
    decide +kernel
  have traced : Traced Console.host (.ofSource nestedMistake) .empty (.start [] [])
      (.raised ⟨2, [], ⟨"FOO".toList, 4⟩⟩ (.unknownCommand "foo".toList))
      Machine.empty.enter.enter (.start [] []) := by
    refine @Traced.blockEnded _ _ _ 0 [] [⟨[], 2⟩, ⟨"IF true DO".toList, 3⟩, ⟨"FOO".toList, 4⟩,
      ⟨"ENDO".toList, 5⟩] [] ⟨"IF true DO".toList, 1⟩ ⟨"ENDO".toList, 6⟩ .branch "true".toList _ _ _
      _ _ rfl (.chosenEnded first ?_ nofun) nofun
    rw [machineAfter_of_untouched untouched, worldAfter_of_untouched _ untouched]
    refine @Traced.blockEnded _ _ _ 1 [] [⟨"FOO".toList, 4⟩] [] ⟨"IF true DO".toList, 3⟩
      ⟨"ENDO".toList, 5⟩ .branch "true".toList _ _ _ _ _ rfl (.chosenEnded second ?_ nofun) nofun
    rw [machineAfter_of_untouched untouchedInside, worldAfter_of_untouched _ untouchedInside]
    have executed :
        Line.execute Console.host "FOO".toList Machine.empty.enter.enter (.start [] []) =
          (.failed (.unknownCommand "foo".toList), Machine.empty.enter.enter, .start [] []) := rfl
    exact .lineEnded rfl executed nofun
  have command : Error.unknownCommand "foo".toList ≠ .unfinished := nofun
  have stated :=
    (report_names_place_iff nestedMistake .empty (.start [] [])).2 _ _ _ _ command traced
  exact ⟨_, _, _, _, rfl, rfl, rfl, command, traced, stated.2.1,
    fun start => nomatch (stated.2.2.2.2.mp start).1⟩

end Program

end Linewise
