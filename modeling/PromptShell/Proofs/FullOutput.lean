import PromptShell.Proofs.Encoding
import PromptShell.Proofs.Streams
namespace PromptShell

variable {World : Type}

/-- A prompt was written. -/
def Event.isPrompt : Event → Bool
  | prompted _ => true
  | _ => false

/-- The prompts among some events. -/
def promptsOf (events : List Event) : List Event := events.filter Event.isPrompt

@[simp] theorem promptsOf_append (first second : List Event) :
    promptsOf (first ++ second) = promptsOf first ++ promptsOf second := by
  simp [promptsOf]

theorem promptsOf_cons_eq_nil_iff {event : Event} {rest : List Event} :
    promptsOf (event :: rest) = [] ↔ event.isPrompt = false ∧ promptsOf rest = [] := by
  cases prompt : event.isPrompt <;> simp [promptsOf, prompt]

/-- The places in the output at which the prompts end, if it holds some bytes before the events. -/
def promptEnds (count : Nat) : List Event → List Nat
  | [] => []
  | event :: rest =>
      let behind := count + event.ownOutput.length
      if event.isPrompt then behind :: promptEnds behind rest else promptEnds behind rest

/-- The lines that are handed over, each with the place in the output at which the latest prompt
ends. -/
def handedOver (latest count : Nat) : List Event → List (Nat × List String)
  | [] => []
  | event :: rest =>
      let behind := count + event.ownOutput.length
      let shown := if event.isPrompt then behind else latest
      (event.dispatched?.toList.map fun words => (shown, words)) ++ handedOver shown behind rest

/-- Between two prompts the output grows only. -/
theorem promptEnds_append (count : Nat) (events rest : List Event)
    (free : promptsOf events = []) :
    promptEnds count (events ++ rest) = promptEnds (count + (outputOf events).length) rest := by
  induction events generalizing count with
  | nil => simp [outputOf]
  | cons event more ih =>
      obtain ⟨other, tail⟩ := promptsOf_cons_eq_nil_iff.mp free
      simp only [List.cons_append, promptEnds, other, Bool.false_eq_true, if_false, ih _ tail]
      simp [outputOf, Nat.add_assoc]

/-- Between two prompts the lines belong to the earlier one. -/
theorem handedOver_append (latest count : Nat) (events rest : List Event)
    (free : promptsOf events = []) :
    handedOver latest count (events ++ rest) =
      (dispatchesOf events).map (fun words => (latest, words)) ++
        handedOver latest (count + (outputOf events).length) rest := by
  induction events generalizing count with
  | nil => simp [outputOf, dispatchesOf]
  | cons event more ih =>
      obtain ⟨other, tail⟩ := promptsOf_cons_eq_nil_iff.mp free
      simp only [List.cons_append, handedOver, other, Bool.false_eq_true, if_false, ih _ tail]
      cases handed : event.dispatched? <;>
        simp [outputOf, dispatchesOf, handed, Nat.add_assoc]

/-- The prompt of a line ends behind what was shown before. -/
theorem le_handedOver (latest count : Nat) (events : List Event) (before : latest ≤ count) :
    ∀ line ∈ handedOver latest count events, latest ≤ line.1 := by
  induction events generalizing latest count with
  | nil => simp [handedOver]
  | cons event rest ih =>
      intro line member
      simp only [handedOver, List.mem_append, List.mem_map] at member
      rcases member with ⟨words, _, rfl⟩ | later
      · simp only
        split <;> omega
      · have bound := ih _ _ (by split <;> omega) line later
        split at bound <;> omega

example : handedOver 0 0 [.prompted [1], .dispatched ["a"], .printed [2, 3], .prompted [1],
    .dispatched ["b"]] = [(1, ["a"]), (4, ["b"])] := by decide

/-- Events of a kind to which no prompt belongs hold none. -/
theorem promptsOf_eq_nil {kind : Event → Bool}
    (other : ∀ event, kind event = true → event.isPrompt = false) {events : List Event}
    (kept : ∀ event ∈ events, kind event = true) : promptsOf events = [] := by
  simp only [promptsOf, List.filter_eq_nil_iff, Bool.not_eq_true]
  intro event member
  exact other event (kept event member)

theorem promptsOf_quiet {events : List Event}
    (quiet : ∀ event ∈ events, event.isQuiet = true) : promptsOf events = [] := by
  refine promptsOf_eq_nil ?_ quiet
  intro event
  cases event <;> simp [Event.isQuiet, Event.isPrompt]

theorem promptsOf_deeds {events : List Event}
    (deeds : ∀ event ∈ events, event.isDeed = true) : promptsOf events = [] := by
  refine promptsOf_eq_nil ?_ deeds
  intro event
  cases event <;> simp [Event.isDeed, Event.isPrompt]

namespace Session

theorem promptsOf_settleIf (session : Session World) (settles : Bool) :
    promptsOf (session.settleIf settles).events = [] := by
  cases settles with
  | false => rfl
  | true =>
      simp only [settleIf, if_true, settleOutput, Turn.andThen_events, promptsOf_append]
      cases session.flush.value <;> rfl

theorem promptsOf_finish (session : Session World) (ending : Ending) :
    promptsOf (session.finish ending).events = [] := by
  cases ending with
  | done status => rfl
  | failed failure => rfl
  | described =>
      simp only [finish, printHelp, writeOut, Turn.andThen_events, Turn.andThen_value,
        promptsOf_append]
      cases (session.write .printed Builtin.helpText).value with
      | some fault => rfl
      | none =>
          simp only
          cases (session.write .printed Builtin.helpText).session.flush.value <;> rfl

/-- No command shows a prompt. -/
theorem promptsOf_execute (machine : Machine World) (session : Session World)
    (words : List String) : promptsOf (session.execute machine words).events = [] := by
  have deeds := promptsOf_deeds (effectOf_isDeed machine session.place words)
  rw [execute_eq]
  simp only [carryOut, undergo, Turn.andThen_events, note_events, promptsOf_append,
    promptsOf_settleIf, promptsOf_finish, deeds]
  rfl

/-- The prompt of a cycle stands in front of it. -/
theorem promptsOf_serve (machine : Machine World) (session : Session World) :
    promptsOf (session.serve machine).events = [] := by
  have arrived := promptsOf_quiet session.arrivalEvents_isQuiet
  rw [serve_eq]
  cases session.arrival with
  | error failure => exact arrived
  | ok found =>
      cases found with
      | none =>
          rw [promptsOf_append, arrived]
          rfl
      | some text =>
          simp only [Turn.andThen_events, note_events, Turn.map_events, promptsOf_append, arrived,
            promptsOf_execute, List.append_nil]

/-- Two shells that have shown so many bytes on an output stream without limit, and on one that was
given room for `limit` bytes. They are alike apart from their streams. -/
structure Throttled (limit shown : Nat) (fault : Fault) (full part : Session World) : Prop where
  settings : part.settings = full.settings
  input : part.input = full.input
  memory : part.memory = full.memory
  place : part.place = full.place
  free : full.output.Unfailing
  left : part.output = ⟨some (limit - shown), none, fault⟩

namespace Throttled

variable {limit shown : Nat} {fault : Fault} {full part : Session World}

/-- Two turns that write the same text cut it off where the room ends. -/
theorem writes {Value : Type} {whole cut : Turn World Value} {text : Bytes}
    (throttled : Throttled limit shown fault full part) (fullWrites : whole.Writes full text)
    (partWrites : cut.Writes part text) (settings : cut.session.settings = whole.session.settings)
    (input : cut.session.input = whole.session.input)
    (memory : cut.session.memory = whole.session.memory)
    (place : cut.session.place = whole.session.place) :
    outputOf whole.events = text ∧ outputOf cut.events = text.take (limit - shown) ∧
      Throttled limit (shown + text.length) fault whole.session cut.session := by
  have wrote := fullWrites.output.unlimited throttled.free
  have offered := partWrites.output
  rw [throttled.left] at offered
  have took := offered.limited
  refine ⟨wrote.1, took.1, settings, input, memory, place, ?_, ?_⟩
  · rw [wrote.2]
    exact throttled.free
  · rw [took.2, Nat.sub_sub]

/-- The same arrives for both shells. -/
theorem arrival (throttled : Throttled limit shown fault full part) :
    part.arrival = full.arrival ∧
      Throttled limit shown fault full.behindArrival part.behindArrival := by
  obtain ⟨arrived, read, memory⟩ :=
    arrival_congr throttled.settings throttled.input throttled.memory
  exact ⟨arrived, throttled.settings, congrArg Line.Reading.rest read, memory, throttled.place,
    throttled.free, throttled.left⟩

/-- Both shells run a line in the same place and differ by what they could print. -/
theorem execute (throttled : Throttled limit shown fault full part) (machine : Machine World)
    (words : List String) :
    outputOf (full.execute machine words).events = printedBy words ∧
      outputOf (part.execute machine words).events = (printedBy words).take (limit - shown) ∧
      Throttled limit (shown + (printedBy words).length) fault (full.execute machine words).session
        (part.execute machine words).session := by
  apply throttled.writes (full.execute_writes machine words) (part.execute_writes machine words)
  · rw [execute_settings, execute_settings, throttled.settings]
  · rw [execute_input, execute_input, throttled.input]
  · rw [execute_memory, execute_memory, throttled.memory]
  · rw [execute_place, execute_place, throttled.place]

/-- Behind their prompts both shells serve the same line, and both go on or neither does. -/
theorem serve (throttled : Throttled limit shown fault full part) (machine : Machine World) :
    ∃ text : Bytes, outputOf (full.serve machine).events = text ∧
      outputOf (part.serve machine).events = text.take (limit - shown) ∧
      dispatchesOf (part.serve machine).events = dispatchesOf (full.serve machine).events ∧
      goesOn (part.serve machine).value = goesOn (full.serve machine).value ∧
      Throttled limit (shown + text.length) fault (full.serve machine).session
        (part.serve machine).session := by
  obtain ⟨arrived, behind⟩ := throttled.arrival
  have fullOutput := outputOf_quiet full.arrivalEvents_isQuiet
  have partOutput := outputOf_quiet part.arrivalEvents_isQuiet
  have fullDispatch := dispatchesOf_quiet full.arrivalEvents_isQuiet
  have partDispatch := dispatchesOf_quiet part.arrivalEvents_isQuiet
  rw [serve_eq machine part, serve_eq machine full, arrived]
  cases full.arrival with
  | error failure =>
      exact ⟨[], fullOutput, by simpa using partOutput, partDispatch.trans fullDispatch.symm, rfl,
        behind⟩
  | ok found =>
      cases found with
      | none =>
          refine ⟨[], ?_, ?_, ?_, rfl, behind⟩
          · rw [outputOf_append, fullOutput]
            rfl
          · rw [outputOf_append, partOutput]
            simp [outputOf, Event.ownOutput]
          · rw [dispatchesOf_append, dispatchesOf_append, fullDispatch, partDispatch]
      | some text =>
          obtain ⟨wrote, took, next⟩ := behind.execute machine (wordsOf text)
          refine ⟨printedBy (wordsOf text), ?_, ?_, ?_, ?_, next⟩
          · simp only [Turn.andThen_events, note_events, note_session, Turn.map_events,
              outputOf_append, fullOutput, wrote, List.nil_append]
          · simp only [Turn.andThen_events, note_events, note_session, Turn.map_events,
              outputOf_append, partOutput, took, List.nil_append]
          · simp only [Turn.andThen_events, note_events, Turn.map_events, dispatchesOf_append,
              fullDispatch, partDispatch, dispatchesOf_execute]
          · simp only [Turn.andThen_value, Turn.map_value, goesOn, Except.map, Option.elim,
              execute_keepsRunning]

end Throttled
end Session

/-- What a loop with limited room has in common with the loop without a limit, both taken from a
moment on at which so many bytes were shown. -/
structure Turn.Clipped (limit shown : Nat) (fault : Fault) (prompt : Bytes)
    (whole cut : Turn World (Except Failure Unit)) : Prop where
  output : outputOf cut.events = (outputOf whole.events).take (limit - shown)
  lines : dispatchesOf cut.events <+: dispatchesOf whole.events
  every : prompt = [] → dispatchesOf cut.events = dispatchesOf whole.events
  fitting : prompt ≠ [] → ∀ latest, dispatchesOf cut.events =
    ((handedOver latest shown whole.events).filter (·.1 ≤ limit)).map Prod.snd
  value : cut.value =
    if prompt ≠ [] ∧ ∃ place ∈ promptEnds shown whole.events, limit < place then
      .error (.stream fault)
    else whole.value

namespace Turn.Clipped

variable {limit shown : Nat} {fault : Fault} {prompt : Bytes}
  {whole cut : Turn World (Except Failure Unit)}

/-- Without prompts and lines both loops end in the same way. -/
theorem quiet (same : cut.value = whole.value)
    (wholeQuiet : ∀ event ∈ whole.events, event.isQuiet = true)
    (cutQuiet : ∀ event ∈ cut.events, event.isQuiet = true) :
    Clipped limit shown fault prompt whole cut := by
  have ends := promptEnds_append shown whole.events [] (promptsOf_quiet wholeQuiet)
  have lines (latest : Nat) := handedOver_append latest shown whole.events []
    (promptsOf_quiet wholeQuiet)
  rw [List.append_nil] at ends
  simp only [List.append_nil, dispatchesOf_quiet wholeQuiet] at lines
  refine ⟨?_, ?_, ?_, ?_, ?_⟩
  · rw [outputOf_quiet cutQuiet, outputOf_quiet wholeQuiet, List.take_nil]
  · rw [dispatchesOf_quiet cutQuiet]
    exact List.nil_prefix
  · intro _
    rw [dispatchesOf_quiet cutQuiet, dispatchesOf_quiet wholeQuiet]
  · intro _ latest
    rw [dispatchesOf_quiet cutQuiet, lines]
    simp [handedOver]
  · simp [ends, promptEnds, same]

/-- A prompt that does not fit ends the loop with limited room. -/
theorem refused {later : List Event} {result : Except Failure Unit} {left behind : Session World}
    (large : limit - shown < prompt.length) :
    Clipped limit shown fault prompt ⟨result, behind, .prompted prompt :: later⟩
      ⟨.error (.stream fault), left, [.prompted (prompt.take (limit - shown))]⟩ := by
  have beyond : limit < shown + prompt.length := by omega
  have late (latest : Nat) : handedOver latest shown (.prompted prompt :: later) =
      handedOver (shown + prompt.length) (shown + prompt.length) later := rfl
  refine ⟨?_, List.nil_prefix, ?_, ?_, ?_⟩
  · have whole : outputOf (.prompted prompt :: later) = prompt ++ outputOf later := rfl
    rw [whole, List.take_append_of_le_length (Nat.le_of_lt large)]
    exact List.append_nil _
  · rintro rfl
    simp at large
  · intro _ latest
    have none :
        (handedOver latest shown (.prompted prompt :: later)).filter (·.1 ≤ limit) = [] := by
      rw [late, List.filter_eq_nil_iff]
      intro line member
      have behind := le_handedOver _ _ later (Nat.le_refl _) line member
      simp only [decide_eq_true_eq]
      omega
    rw [none]
    rfl
  · have solid : prompt ≠ [] := by
      rintro rfl
      simp at large
    have found : ∃ place ∈ promptEnds shown (.prompted prompt :: later), limit < place :=
      ⟨shown + prompt.length, List.mem_cons_self, beyond⟩
    rw [if_pos ⟨solid, found⟩]

/-- Both loops show the same prompt and serve the same line, and then go on alike. -/
theorem cycle {wholeLine cutLine : List Event} {text : Bytes}
    (fits : prompt.length ≤ limit - shown)
    (wholeText : outputOf wholeLine = text)
    (cutText : outputOf cutLine = text.take (limit - (shown + prompt.length)))
    (lines : dispatchesOf cutLine = dispatchesOf wholeLine)
    (free : promptsOf wholeLine = [])
    (rest : Clipped limit (shown + prompt.length + text.length) fault prompt whole cut) :
    Clipped limit shown fault prompt
      ⟨whole.value, whole.session,
        [.prompted prompt, .flushed true] ++ (wholeLine ++ whole.events)⟩
      ⟨cut.value, cut.session, [.prompted prompt, .flushed true] ++ (cutLine ++ cut.events)⟩ := by
  have under (solid : prompt ≠ []) : shown + prompt.length ≤ limit := by
    have positive := List.length_pos_iff.mpr solid
    omega
  have handed (latest : Nat) : handedOver latest shown
      ([.prompted prompt, .flushed true] ++ (wholeLine ++ whole.events)) =
        (dispatchesOf wholeLine).map (fun words => (shown + prompt.length, words)) ++
          handedOver (shown + prompt.length) (shown + prompt.length + text.length)
            whole.events := by
    rw [← wholeText, ← handedOver_append _ _ _ _ free]
    rfl
  have ends : promptEnds shown
      ([.prompted prompt, .flushed true] ++ (wholeLine ++ whole.events)) =
        (shown + prompt.length) ::
          promptEnds (shown + prompt.length + text.length) whole.events := by
    rw [← wholeText, ← promptEnds_append _ _ _ free]
    rfl
  have front (events : List Event) :
      dispatchesOf ([.prompted prompt, .flushed true] ++ events) = dispatchesOf events := rfl
  have shows (events : List Event) :
      outputOf ([.prompted prompt, .flushed true] ++ events) = prompt ++ outputOf events := by
    simp [outputOf, Event.ownOutput]
  refine ⟨?_, ?_, ?_, ?_, ?_⟩
  · rw [shows, shows, outputOf_append, outputOf_append, wholeText, cutText, rest.output,
      List.take_append, List.take_append, List.take_of_length_le fits, Nat.sub_sub, Nat.sub_sub]
  · rw [front, front, dispatchesOf_append, dispatchesOf_append, lines]
    exact (List.prefix_append_right_inj _).mpr rest.lines
  · intro empty
    rw [front, front, dispatchesOf_append, dispatchesOf_append, lines, rest.every empty]
  · intro solid latest
    have inside : (dispatchesOf wholeLine |>.map fun words =>
        (shown + prompt.length, words)).filter (·.1 ≤ limit) =
          (dispatchesOf wholeLine).map fun words => (shown + prompt.length, words) := by
      rw [List.filter_eq_self]
      intro line member
      obtain ⟨words, _, rfl⟩ := List.mem_map.mp member
      simpa using under solid
    rw [front, dispatchesOf_append, lines, rest.fitting solid (shown + prompt.length), handed,
      List.filter_append, List.map_append, inside, List.map_map]
    simp [Function.comp_def]
  · rw [ends, rest.value]
    by_cases solid : prompt = []
    · simp [solid]
    · have shownInside : ¬ limit < shown + prompt.length := by
        have := under solid
        omega
      simp [shownInside]

end Turn.Clipped

namespace Session.Throttled

variable {limit shown : Nat} {fault : Fault} {full part : Session World}

/-- Both shells show a prompt that fits. -/
theorem ask_fits (throttled : Throttled limit shown fault full part)
    (fits : (Utf8.encode full.settings.prompt).length ≤ limit - shown) :
    part.ask.value = none ∧
      part.ask.events = [.prompted (Utf8.encode full.settings.prompt), .flushed true] ∧
      Throttled limit (shown + (Utf8.encode full.settings.prompt).length) fault full
        part.ask.session := by
  have asked := full.ask_unfailing throttled.free
  obtain ⟨value, events⟩ := part.ask_steady (by rw [throttled.left])
  simp only [throttled.left, throttled.settings, Sink.write, fits, if_true,
    List.take_of_length_le fits] at value events
  have partWrites := part.ask_writes
  rw [throttled.settings] at partWrites
  have next := (throttled.writes full.ask_writes partWrites
    (by rw [part.ask_onStreams.settings, full.ask_onStreams.settings, throttled.settings])
    (by rw [part.ask_onStreams.input, full.ask_onStreams.input, throttled.input])
    (by rw [part.ask_onStreams.memory, full.ask_onStreams.memory, throttled.memory])
    (by rw [part.ask_onStreams.place, full.ask_onStreams.place, throttled.place])).2.2
  rw [asked] at next
  exact ⟨value, events, next⟩

/-- A prompt that does not fit is cut off, and the shell with limited room has its fault. -/
theorem ask_refused (throttled : Throttled limit shown fault full part)
    (large : limit - shown < (Utf8.encode full.settings.prompt).length) :
    part.ask.value = some fault ∧
      part.ask.events =
        [.prompted ((Utf8.encode full.settings.prompt).take (limit - shown))] := by
  obtain ⟨value, events⟩ := part.ask_steady (by rw [throttled.left])
  have not : ¬ (Utf8.encode full.settings.prompt).length ≤ limit - shown := by omega
  simp only [throttled.left, throttled.settings, Sink.write, not, if_false, reduceCtorEq]
    at value events
  exact ⟨value, events⟩

/-- Limited room cuts off the loop without a limit. -/
theorem run (machine : Machine World) (throttled : Throttled limit shown fault full part) :
    Turn.Clipped limit shown fault (Utf8.encode full.settings.prompt) (full.run machine)
      (part.run machine) := by
  induction full using run_induct machine generalizing part shown with
  | cycle full ih =>
      have asked := full.ask_unfailing throttled.free
      have wholeRun := full.run_asked machine (by rw [asked])
      rw [asked] at wholeRun
      by_cases fits : (Utf8.encode full.settings.prompt).length ≤ limit - shown
      · obtain ⟨answer, events, behind⟩ := throttled.ask_fits fits
        have cutRun := part.run_asked machine answer
        obtain ⟨text, wrote, took, lines, goes, next⟩ := behind.serve machine
        have rest : Turn.Clipped limit
            (shown + (Utf8.encode full.settings.prompt).length + text.length) fault
            (Utf8.encode full.settings.prompt)
            (follow machine (full.serve machine).value (full.serve machine).session)
            (follow machine (part.ask.session.serve machine).value
              (part.ask.session.serve machine).session) := by
          have stepped : full.step machine =
              full.ask.andThen fun _ next => next.serve machine := by
            rw [step_eq, asked]
            rfl
          rw [stepped, asked] at ih
          simp only [follow, goes]
          cases outcome : goesOn (full.serve machine).value with
          | error failure => exact .quiet rfl (by simp) (by simp)
          | ok going =>
              cases going with
              | false =>
                  simp only [close_steady _ next.free.flushes,
                    close_steady (part.ask.session.serve machine).session (by rw [next.left])]
                  exact .quiet rfl (by simp [Event.isQuiet]) (by simp [Event.isQuiet])
              | true =>
                  have following := ih outcome next
                  simp only [Turn.andThen_session, serve_settings] at following
                  exact following
        have whole := Turn.Clipped.cycle fits wrote took lines (full.promptsOf_serve machine) rest
        rw [wholeRun, cutRun]
        simp only [Turn.andThen, events]
        exact whole
      · have large : limit - shown < (Utf8.encode full.settings.prompt).length := by omega
        obtain ⟨answer, events⟩ := throttled.ask_refused large
        rw [wholeRun, part.run_unasked machine fault answer, events]
        exact .refused large

end Session.Throttled

namespace Session

/-- A `help` that finds no room for its text fails. -/
theorem execute_help_cut (machine : Machine World) (session : Session World)
    (words : List String) (called : words.head? = some "help") {left : Nat}
    (room : session.output.room = some left)
    (small : left < (Utf8.encode Builtin.helpText).length) :
    (session.execute machine words).value = .failed := by
  rw [execute_value_failed_iff]
  refine Or.inr (Or.inl ⟨called, Or.inl ?_⟩)
  simp only [Sink.write, room, ne_eq, List.take_eq_self_iff]
  omega

/-- A loop goes on behind a line that failed. -/
theorem run_of_failed (machine : Machine World) (session : Session World)
    (went : (session.step machine).value = .ok (some .failed)) :
    session.run machine =
      (session.step machine).andThen fun _ next => next.run machine := by
  rw [run_eq, went]
  rfl

/-- An output stream that runs full cuts the output off. Against the loop without a limit, the bytes
are the first ones, the lines are those whose prompt ends within the limit, or all lines if the
prompt is empty, and the fault of the stream is the answer exactly if a prompt does not fit. A
`help` that meets the limit has failed, and the loop goes on behind it. -/
theorem run_full_output (machine : Machine World) (session : Session World) (limit : Nat)
    (fault : Fault) :
    let whole := ({ session with output := {} } : Session World).run machine
    let cut := ({ session with output := ⟨some limit, none, fault⟩ } : Session World).run machine
    outputOf cut.events = (outputOf whole.events).take limit ∧
      dispatchesOf cut.events <+: dispatchesOf whole.events ∧
      dispatchesOf cut.events =
        (if session.settings.prompt = "" then dispatchesOf whole.events
        else ((handedOver 0 0 whole.events).filter (·.1 ≤ limit)).map Prod.snd) ∧
      cut.value =
        (if session.settings.prompt ≠ "" ∧ ∃ place ∈ promptEnds 0 whole.events, limit < place then
          .error (.stream fault)
        else whole.value) ∧
      Fault.tookNothing.message = "failed to write whole buffer" ∧
      (∀ (state : Session World) (left : Nat) (words : List String),
        state.output.room = some left → left < (Utf8.encode Builtin.helpText).length →
          words.head? = some "help" → (state.execute machine words).value = .failed) ∧
      ∀ state : Session World, (state.step machine).value = .ok (some .failed) →
        state.run machine = (state.step machine).andThen fun _ next => next.run machine := by
  intro whole cut
  have throttled : Throttled limit 0 fault ({ session with output := {} } : Session World)
      ({ session with output := ⟨some limit, none, fault⟩ } : Session World) :=
    ⟨rfl, rfl, rfl, rfl, ⟨rfl, rfl⟩, rfl⟩
  have clipped := throttled.run machine
  have empty := Utf8.encode_eq_nil_iff session.settings.prompt
  refine ⟨clipped.output, clipped.lines, ?_, ?_, rfl, ?_, ?_⟩
  · split
    · rename_i none
      exact clipped.every (empty.mpr none)
    · rename_i some
      exact clipped.fitting (fun none => some (empty.mp none)) 0
  · have value := clipped.value
    simp only [ne_eq, empty] at value
    exact value
  · intro state left words room small called
    exact state.execute_help_cut machine words called room small
  · intro state went
    exact state.run_of_failed machine went

end Session
end PromptShell
