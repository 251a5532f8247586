import Keyspace.Operation
import Keyspace.Sampling.Feed

/-!
What is written down does not change what is answered, but for one line.

Calls are made one after the other, operations among lines that are emitted as they are, and a sink
keeps the lines from a level on. What is answered is what the operations answer where nothing is
written (`Call.plain`), unless a batch was assigned over a count with too many digits: its line
shows the count, and where the line is to be kept the call fails for it (`Call.answered`). Lines are
written by calls in their order, and those of one call tell whether it came to an end
(`Contributes`), so what is kept at the debug level is what the calls wrote, call by call
(`Contributions`). What is kept at a higher level are lines of that.

    compile "a"    generate "[" 2    emit info "x"    generate "a" 2         analyze [] 10^4300
    pieces         refused           nothing          keys                   fails, or no records
    Compiled       -                 x                Compiled, Generated    -
-/

namespace Keyspace.Journal

/-- One call, with whatever it is given. Calls for keys share the state of their sources. -/
inductive Call (σ : Type) where
  | compile (pattern : Text)
  | generate (source : Sampling.Source σ) (pattern : Text) (count : Value)
  | analyze (digest : Text → Except Error Value) (keys : List Text) (count : Value)
  | summarize (count : Value) (indexes : List Int)
  /-- Writes a line and answers nothing. -/
  | emit (line : Line)

/-- What a call answers. -/
inductive Answer where
  | pieces (pieces : List Pattern.Piece)
  | keys (keys : List Text)
  | records (records : List Assignment)
  | summary (summary : Distribution)
  | nothing

/-- The result of an operation as the answer of a call. -/
def Noted.answer {α : Type} (noted : Noted (Except Error α)) (answer : α → Answer) :
    Noted (Except Error Answer) :=
  ⟨noted.result.map answer, noted.lines⟩

section

variable {σ : Type}

/-- What comes of a call where lines are kept from a level on: its answer with its lines, and the
    state of the sources after it. -/
def Call.perform (threshold : Level) : Call σ → σ → Noted (Except Error Answer) × σ
  | .compile pattern, s => ((Operation.compile pattern).answer .pieces, s)
  | .generate source pattern count, s =>
    let (generated, s) := Operation.generate source pattern count s
    (generated.answer .keys, s)
  | .analyze digest keys count, s =>
    ((Operation.analyzeWith threshold digest keys count).1.answer .records, s)
  | .summarize count indexes, s => ((Operation.summarize count indexes).answer .summary, s)
  | .emit line, s => (⟨.ok .nothing, [line]⟩, s)

/-- What a call answers where nothing is written, and the state of the sources after it. -/
def Call.plain : Call σ → σ → Except Error Answer × σ
  | .compile pattern, s => (((Pattern.parse pattern).mapError .pattern).map .pieces, s)
  | .generate source pattern count, s =>
    let (keys, s) := Sampling.generate source pattern count s
    (keys.map .keys, s)
  | .analyze digest keys count, s =>
    ((Assignment.analyzeWith digest keys count).outcome.map .records, s)
  | .summarize count indexes, s => ((Distribution.summarize count indexes).map .summary, s)
  | .emit _, s => (.ok .nothing, s)

/-- Whether a call assigns its keys over a count with too many digits, which its line would show. -/
def Call.isOverlong : Call σ → Bool
  | .analyze digest keys count =>
    match (Assignment.analyzeWith digest keys count).outcome, PartitionCount.normalize count with
    | .ok _, .ok n => !Text.isWritable n
    | _, _ => false
  | .compile _ | .generate _ _ _ | .summarize _ _ | .emit _ => false

/-- What a call answers where lines are kept from a level on. -/
def Call.answered (threshold : Level) (call : Call σ) (s : σ) : Except Error Answer :=
  if threshold.admits .debug && call.isOverlong then .error .integerTooLong else (call.plain s).1

/-- Calls made in order. -/
def performAll (threshold : Level) : List (Call σ) → σ → List (Noted (Except Error Answer))
  | [], _ => []
  | call :: rest, s =>
    (call.perform threshold s).1 :: performAll threshold rest (call.perform threshold s).2

/-- What calls answer in order where nothing is written. -/
def plainAll : List (Call σ) → σ → List (Except Error Answer)
  | [], _ => []
  | call :: rest, s => (call.plain s).1 :: plainAll rest (call.plain s).2

/-- What calls answer in order where lines are kept from a level on. -/
def answeredAll (threshold : Level) : List (Call σ) → σ → List (Except Error Answer)
  | [], _ => []
  | call :: rest, s => call.answered threshold s :: answeredAll threshold rest (call.plain s).2

/-- The lines that calls write in order, where every line is kept. -/
def written (calls : List (Call σ)) (s : σ) : List Line :=
  (performAll .trace calls s).flatMap (·.lines)

/-- Calls made in order under a configured level, with or without a file for the lines. -/
def logged (level : Text) (file : Bool) (calls : List (Call σ)) (s : σ) :
    Except Error (Recording (Except Error Answer)) :=
  (Level.configured level).map fun level =>
    record (if file then some level else none) (performAll level calls s)

/-! ### One call -/

theorem analyzedLine?_of_normalize {count : Value} {n : Nat}
    (hn : PartitionCount.normalize count = .ok n) (records : List Assignment) :
    Operation.analyzedLine? count records =
      if Text.isWritable n then .ok (Operation.analyzedLine n records)
      else .error .integerTooLong := by
  rw [Operation.analyzedLine?, hn]
  rfl

/-- A batch over a count that is none has no records. -/
theorem exists_normalize_of_outcome {digest : Text → Except Error Value} {keys : List Text}
    {count : Value} {records : List Assignment}
    (h : (Assignment.analyzeWith digest keys count).outcome = .ok records) :
    ∃ n, PartitionCount.normalize count = .ok n := by
  cases hn : PartitionCount.normalize count with
  | error e =>
    rw [Assignment.analyzeWith, hn] at h
    cases h
  | ok n => exact ⟨n, rfl⟩

/-- A batch that is assigned has its line, unless the count has too many digits: then it fails where
    the line is to be kept, and else goes without. -/
theorem analyzeWith_of_outcome (threshold : Level) {digest : Text → Except Error Value}
    {keys : List Text} {count : Value} {records : List Assignment} {n : Nat}
    (h : (Assignment.analyzeWith digest keys count).outcome = .ok records)
    (hn : PartitionCount.normalize count = .ok n) :
    (Operation.analyzeWith threshold digest keys count).1 =
      if Text.isWritable n then ⟨.ok records, [Operation.analyzedLine n records]⟩
      else ⟨if threshold.admits .debug then .error .integerTooLong else .ok records, []⟩ := by
  rw [Operation.analyzeWith]
  simp only [h, Operation.announced, analyzedLine?_of_normalize hn]
  cases Text.isWritable n <;> rfl

theorem isOverlong_of_outcome {digest : Text → Except Error Value} {keys : List Text}
    {count : Value} {records : List Assignment} {n : Nat}
    (h : (Assignment.analyzeWith digest keys count).outcome = .ok records)
    (hn : PartitionCount.normalize count = .ok n) :
    (Call.analyze digest keys count : Call σ).isOverlong = !Text.isWritable n := by
  rw [Call.isOverlong, h, hn]

theorem state_perform (threshold : Level) (call : Call σ) (s : σ) :
    (call.perform threshold s).2 = (call.plain s).2 := by
  cases call with
  | generate source pattern count =>
    simp only [Call.perform, Call.plain, Operation.generate, Sampling.generate,
      Operation.compile_result]
    cases Pattern.parse pattern <;> rfl
  | _ => rfl

theorem result_perform (threshold : Level) (call : Call σ) (s : σ) :
    (call.perform threshold s).1.result = call.answered threshold s := by
  cases call with
  | compile pattern =>
    simp [Call.answered, Call.isOverlong, Call.perform, Call.plain, Noted.answer,
      Operation.compile_result]
  | generate source pattern count =>
    simp only [Call.answered, Call.isOverlong, Call.perform, Call.plain, Noted.answer,
      Operation.generate, Sampling.generate, Operation.compile_result, Bool.and_false]
    cases Pattern.parse pattern <;> rfl
  | analyze digest keys count =>
    simp only [Call.answered, Call.perform, Call.plain, Noted.answer]
    cases h : (Assignment.analyzeWith digest keys count).outcome with
    | error e => simp [Call.isOverlong, h, Operation.analyzeWith, Operation.announced]
    | ok records =>
      obtain ⟨n, hn⟩ := exists_normalize_of_outcome h
      rw [analyzeWith_of_outcome threshold h hn, isOverlong_of_outcome h hn]
      cases Text.isWritable n <;> cases threshold.admits .debug <;> rfl
  | summarize count indexes =>
    simp [Call.answered, Call.isOverlong, Call.perform, Call.plain, Noted.answer,
      Operation.summarize, Operation.result_noted]
  | emit line => simp [Call.answered, Call.isOverlong, Call.perform, Call.plain]

/-- Which lines a call writes has nothing to do with which are kept. -/
theorem lines_perform (threshold : Level) (call : Call σ) (s : σ) :
    (call.perform threshold s).1.lines = (call.perform .trace s).1.lines := by
  cases call with
  | analyze digest keys count =>
    simp only [Call.perform, Noted.answer]
    cases h : (Assignment.analyzeWith digest keys count).outcome with
    | error e => simp [Operation.analyzeWith, Operation.announced, h]
    | ok records =>
      obtain ⟨n, hn⟩ := exists_normalize_of_outcome h
      rw [analyzeWith_of_outcome threshold h hn, analyzeWith_of_outcome .trace h hn]
      cases Text.isWritable n <;> rfl
  | _ => rfl

/-- A call answers what it answers where nothing is written, exactly unless its line would have to
    be kept and cannot be written. -/
theorem answered_eq_plain_iff (threshold : Level) (call : Call σ) (s : σ) :
    call.answered threshold s = (call.plain s).1 ↔
      (threshold.admits .debug → call.isOverlong = false) := by
  unfold Call.answered
  cases threshold.admits .debug with
  | false => simp
  | true =>
  cases hoverlong : call.isOverlong with
  | false => simp
  | true =>
    refine iff_of_false ?_ (by simp)
    cases call with
    | analyze digest keys count =>
      simp only [Call.plain]
      cases h : (Assignment.analyzeWith digest keys count).outcome with
      | error e => simp [Call.isOverlong, h] at hoverlong
      | ok records => nofun
    | _ => cases hoverlong

/-! ### Calls in order -/

theorem results_performAll (threshold : Level) (calls : List (Call σ)) (s : σ) :
    (performAll threshold calls s).map (·.result) = answeredAll threshold calls s := by
  induction calls generalizing s with
  | nil => rfl
  | cons call rest ih =>
    rw [performAll, answeredAll, List.map_cons, ih, result_perform, state_perform]

theorem lines_performAll (threshold : Level) (calls : List (Call σ)) (s : σ) :
    (performAll threshold calls s).flatMap (·.lines) = written calls s := by
  induction calls generalizing s with
  | nil => rfl
  | cons call rest ih =>
    rw [performAll, List.flatMap_cons, ih, lines_perform, state_perform, ← state_perform .trace]
    rfl

theorem answeredAll_eq_plainAll_iff (threshold : Level) (calls : List (Call σ)) (s : σ) :
    answeredAll threshold calls s = plainAll calls s ↔
      (threshold.admits .debug → ∀ call ∈ calls, call.isOverlong = false) := by
  induction calls generalizing s with
  | nil => simp [answeredAll, plainAll]
  | cons call rest ih =>
    rw [answeredAll, plainAll, List.cons_eq_cons, answered_eq_plain_iff, ih]
    simp only [List.forall_mem_cons]
    exact imp_and.symm

/-! ### Lines -/

/-- What a sink keeps at a higher level, it keeps at a lower one as well. -/
theorem kept_kept {lower higher : Level} (h : lower.severity ≤ higher.severity)
    (lines : List Line) : kept higher (kept lower lines) = kept higher lines := by
  rw [kept, kept, List.filter_filter]
  refine List.filter_congr fun line _ => ?_
  rw [Level.admits, Level.admits, ← Bool.decide_and, decide_eq_decide]
  exact ⟨And.left, fun hline => ⟨hline, Nat.le_trans h hline⟩⟩

/-- The lines of a call, with what it answers, that are kept at the debug level. -/
inductive Contributes : Call σ → Except Error Answer → List Line → Prop where
  | refused {call : Call σ} {e : Error} : Contributes call (.error e) []
  | compile {pattern : Text} {pieces : List Pattern.Piece} :
    Contributes (.compile pattern) (.ok (.pieces pieces)) [Operation.compiledLine pattern pieces]
  | generate {source : Sampling.Source σ} {pattern : Text} {count : Value} {keys : List Text}
      {pieces : List Pattern.Piece} :
    Pattern.parse pattern = .ok pieces →
    Contributes (.generate source pattern count) (.ok (.keys keys))
      [Operation.compiledLine pattern pieces,
        Operation.debug (Operation.generatedMessage pattern keys.length)]
  | analyze {digest : Text → Except Error Value} {keys : List Text} {count : Value}
      {records : List Assignment} {n : Nat} :
    PartitionCount.normalize count = .ok n →
    Contributes (.analyze digest keys count) (.ok (.records records))
      [Operation.analyzedLine n records]
  | complete {count : Value} {indexes : List Int} {summary : Distribution} {n : Nat} :
    PartitionCount.normalize count = .ok n → (∀ i ∈ indexes, 0 ≤ i ∧ i < n) →
    Contributes (.summarize count indexes) (.ok (.summary summary)) []
  | dropped {count : Value} {indexes : List Int} {summary : Distribution} {n : Nat} {i : Int} :
    PartitionCount.normalize count = .ok n → i ∈ indexes → ¬ (0 ≤ i ∧ i < n) →
    Contributes (.summarize count indexes) (.ok (.summary summary))
      [Operation.debug (Text.lit "Ignored " ++ Text.ofNat (Distribution.dropped n indexes) ++
        Text.lit " out-of-range partition indexes")]
  | emit {line : Line} : Contributes (.emit line) (.ok .nothing) (kept .debug [line])

theorem Contributes.lines_of_error {call : Call σ} {e : Error} {lines : List Line}
    (h : Contributes call (.error e) lines) : lines = [] := by
  cases h
  rfl

/-- The lines of calls in order, with what they answer, that are kept at the debug level. -/
inductive Contributions : List (Call σ) → List (Except Error Answer) → List Line → Prop where
  | nil : Contributions [] [] []
  | cons {call : Call σ} {rest : List (Call σ)} {answer : Except Error Answer}
      {answers : List (Except Error Answer)} {lines more : List Line} :
    Contributes call answer lines → Contributions rest answers more →
    Contributions (call :: rest) (answer :: answers) (lines ++ more)

theorem contributes_summarize (count : Value) (indexes : List Int) :
    Contributes (.summarize count indexes : Call σ)
      ((Distribution.summarize count indexes).map .summary)
      (kept .debug (Operation.summarize count indexes).lines) := by
  cases hn : PartitionCount.normalize count with
  | error e =>
    simp only [Operation.summarize, Distribution.summarize, hn]
    exact .refused
  | ok n =>
    simp only [Operation.summarize, Distribution.summarize, hn, Except.map, Operation.noted,
      Operation.droppedLines]
    split
    · next hzero =>
      refine .complete hn fun i hi => ?_
      have := List.countP_eq_zero.1 hzero i hi
      simpa [Distribution.inTable] using this
    · next hpos =>
      obtain ⟨i, hi, hout⟩ := List.countP_pos_iff.1 (Nat.pos_of_ne_zero hpos)
      refine .dropped hn hi ?_
      rintro ⟨hge, hlt⟩
      simp [Distribution.inTable, hge, hlt] at hout

/-- A call that fails has written nothing. -/
theorem contributes_perform (call : Call σ) (s : σ) :
    Contributes call (call.answered .debug s) (kept .debug (call.perform .debug s).1.lines) := by
  rw [← result_perform]
  cases call with
  | compile pattern =>
    simp only [Call.perform, Noted.answer, Operation.compile]
    cases Pattern.parse pattern with
    | error f => exact .refused
    | ok pieces => exact .compile
  | generate source pattern count =>
    simp only [Call.perform, Noted.answer, Operation.generate, Operation.compile]
    cases hp : Pattern.parse pattern with
    | error f => exact .refused
    | ok pieces => exact .generate hp
  | analyze digest keys count =>
    simp only [Call.perform, Noted.answer]
    cases h : (Assignment.analyzeWith digest keys count).outcome with
    | error e =>
      simp only [Operation.analyzeWith, Operation.announced, h]
      exact .refused
    | ok records =>
      obtain ⟨n, hn⟩ := exists_normalize_of_outcome h
      rw [analyzeWith_of_outcome .debug h hn]
      cases Text.isWritable n with
      | true => exact .analyze hn
      | false => exact .refused
  | summarize count indexes =>
    simp only [Call.perform, Noted.answer, Operation.summarize, Operation.result_noted]
    exact contributes_summarize count indexes
  | emit line => exact .emit

theorem contributions_performAll (calls : List (Call σ)) (s : σ) :
    Contributions calls (answeredAll .debug calls s) (kept .debug (written calls s)) := by
  rw [← lines_performAll .debug]
  induction calls generalizing s with
  | nil => exact .nil
  | cons call rest ih =>
    rw [performAll, List.flatMap_cons, kept, List.filter_append, answeredAll, state_perform]
    exact .cons (contributes_perform call s) (ih _)

/-! ### Runs -/

/-- What a run of calls comes to at a level, without a file and with one. -/
structure Observed (calls : List (Call σ)) (s : σ) (level : Level)
    (unfiled filed : Recording (Except Error Answer)) : Prop where
  unfiled_results : unfiled.results = answeredAll level calls s
  filed_results : filed.results = answeredAll level calls s
  /-- The answers are those of the calls by themselves, exactly unless a batch is assigned over a
      count with too many digits where its line would be kept. -/
  undisturbed_iff : filed.results = plainAll calls s ↔
    (Level.debug.severity ≥ level.severity → ∀ call ∈ calls, call.isOverlong = false)
  unfiled_lines : unfiled.lines = []
  filed_lines : filed.lines =
    (written calls s).filter fun line => level.severity ≤ line.level.severity
  /-- A file of a higher level is a part of this one. -/
  higher : ∀ {name : Text} {above : Level}, Level.configured name = .ok above →
    level.severity ≤ above.severity →
    ∃ r, logged name true calls s = .ok r ∧ r.lines.Sublist filed.lines ∧
      r.lines = filed.lines.filter fun line => above.severity ≤ line.level.severity
  debug : level = .debug → Contributions calls filed.results filed.lines

/-- Whatever is called, at every level that there is and with or without a file the answers are
    those of the calls by themselves, but for batches over a count with too many digits: these fail
    where lines of the debug level are kept. A file holds the lines from the level on in their
    order. -/
theorem logged_observed {name : Text} {level : Level} (h : Level.configured name = .ok level)
    (calls : List (Call σ)) (s : σ) :
    ∃ unfiled filed, logged name false calls s = .ok unfiled ∧
      logged name true calls s = .ok filed ∧ Observed calls s level unfiled filed := by
  have hlogged {name : Text} {level : Level} (h : Level.configured name = .ok level)
      (file : Bool) : logged name file calls s =
        .ok (record (if file then some level else none) (performAll level calls s)) := by
    rw [logged, h]
    rfl
  have hlines (level : Level) : (record (some level) (performAll level calls s)).lines =
      kept level (written calls s) := by
    rw [← lines_performAll level]
    rfl
  have hresults := results_performAll level calls s
  refine ⟨_, _, hlogged h false, hlogged h true, ?_⟩
  constructor
  case unfiled_results => exact hresults
  case filed_results => exact hresults
  case undisturbed_iff =>
    have hiff := answeredAll_eq_plainAll_iff level calls s
    rw [← hresults, Level.admits, decide_eq_true_iff] at hiff
    exact hiff
  case unfiled_lines => rfl
  case filed_lines => exact hlines level
  case higher =>
    intro name above habove hle
    have hkept := kept_kept hle (written calls s)
    refine ⟨_, hlogged habove true, ?_, ?_⟩
    · rw [if_pos rfl, if_pos rfl, hlines, hlines, ← hkept]
      exact List.filter_sublist
    · rw [if_pos rfl, if_pos rfl, hlines, hlines]
      exact hkept.symm
  case debug =>
    rintro rfl
    have hcalls := contributions_performAll calls s
    rw [← hresults, ← hlines] at hcalls
    exact hcalls

end

/-- No keys over a count with too many digits: their batch has no records, and with lines of the
    debug level it fails. -/
theorem logged_observed_overlong :
    let call : Call Sampling.Feed := .analyze HashKey.digestOf [] (.int Text.overlong)
    (∃ unfiled filed, logged (Text.lit "info") false [call] .extremes = .ok unfiled ∧
      logged (Text.lit "info") true [call] .extremes = .ok filed ∧
      filed.results = [.ok (.records [])] ∧ unfiled.results = [.ok (.records [])]) ∧
    ∃ unfiled filed, logged (Text.lit "debug") false [call] .extremes = .ok unfiled ∧
      logged (Text.lit "debug") true [call] .extremes = .ok filed ∧
      filed.results = [.error .integerTooLong] ∧ filed.lines = [] := by
  intro call
  have hn : PartitionCount.normalize (.int Text.overlong) = .ok Text.overlong :=
    PartitionCount.normalize_eq_ok_iff.2 ⟨rfl, Text.overlong_pos⟩
  have hbatch : (Assignment.analyzeWith HashKey.digestOf [] (.int Text.overlong)).outcome =
      .ok [] := by
    rw [Assignment.analyzeWith, hn]
    rfl
  have hoverlong : call.isOverlong = true := by
    rw [isOverlong_of_outcome hbatch hn, Bool.not_eq_true', ← Bool.not_eq_true]
    exact Text.not_isWritable_overlong
  have hplain : plainAll [call] Sampling.Feed.extremes = [.ok (.records [])] := by
    simp only [plainAll, Call.plain, call, hbatch]
    rfl
  have hinfo : Level.configured (Text.lit "info") = .ok .info := rfl
  have hdebug : Level.configured (Text.lit "debug") = .ok .debug := rfl
  obtain ⟨unfiled, filed, hunfiled, hfiled, hobserved⟩ :=
    logged_observed hinfo [call] Sampling.Feed.extremes
  obtain ⟨unfiled', filed', hunfiled', hfiled', hobserved'⟩ :=
    logged_observed hdebug [call] Sampling.Feed.extremes
  have hquiet : filed.results = [.ok (.records [])] :=
    (hobserved.undisturbed_iff.2 fun hle => absurd hle (by decide)).trans hplain
  have hloud : filed'.results = [.error .integerTooLong] := by
    rw [hobserved'.filed_results, answeredAll, Call.answered, hoverlong]
    rfl
  refine ⟨⟨unfiled, filed, hunfiled, hfiled, hquiet, ?_⟩,
    ⟨unfiled', filed', hunfiled', hfiled', hloud, ?_⟩⟩
  · rw [hobserved.unfiled_results, ← hobserved.filed_results, hquiet]
  · have hcalls := hobserved'.debug rfl
    rw [hloud] at hcalls
    generalize filed'.lines = lines at hcalls
    rcases hcalls with _ | ⟨hcall, hrest⟩
    cases hrest
    rw [hcall.lines_of_error, List.append_nil]

end Keyspace.Journal
