import AiGateway.Proofs.StreamedDelivery

/-! What the request log learns of a streamed response. The logger collects one frame for
each chunk that went past the client; the signal of the first token is sent with the first
chunk that has one, and the usage recorded is that of the last chunk that reports any. -/

namespace AiGateway.StreamedResponses
open Lib.Runs Lib.Utf8 Lib.Lines CacheTee AiGateway.Proofs BodyReader

variable {serde : JsonText} {isStream : Bool} {appendNewlines : Bool} {trigger : TfftTrigger}

/-- The logger has read a front of the chunks the client was given and the rest is on its way. -/
structure Logged (serde : JsonText) (isStream appendNewlines : Bool) (trigger : TfftTrigger) (received : List (List UInt8))
    (state : State) : Prop where
  split : received ++ state.channel = chunksOf state.delivered
  frames : state.frames = received.map (frame appendNewlines)
  signals : state.signals = (received.findIdx? (triggers serde trigger)).toList
  armed : state.reader.tfftTrigger = trigger
  newlines : state.reader.appendNewlines = appendNewlines
  unsent : state.reader.tfftTx = (received.findIdx? (triggers serde trigger)).isNone
  log : ∀ usage, state.log = some usage → state.bodyHeld = false ∧ state.channel = [] ∧
    usage = usageCountsFromResponseBodyForLog serde isStream (received.map (frame appendNewlines)).flatten

theorem logged_start (items : List Item) (source : List (Except SourceError SseEvent)) :
    Logged serde isStream appendNewlines trigger [] (.start appendNewlines trigger items source) :=
  ⟨rfl, rfl, rfl, rfl, rfl, rfl, nofun⟩

theorem findIdx?_concat {α : Type} (p : α → Bool) (front : List α) (last : α) :
    (front ++ [last]).findIdx? p = (front.findIdx? p).or (if p last then some front.length else none) := by
  rw [List.findIdx?_append, List.findIdx?_singleton]
  cases p last <;> simp

/-- The signal is sent unless it was sent before. -/
theorem pollFrame_signal {reader : BodyReader} (bytes : List UInt8) :
    (reader.pollFrame serde bytes).2.2 = (reader.tfftTx && triggers serde reader.tfftTrigger bytes) ∧
      (reader.pollFrame serde bytes).1 =
        { reader with tfftTx := reader.tfftTx && !triggers serde reader.tfftTrigger bytes } := by
  refine ⟨rfl, ?_⟩
  simp only [pollFrame]
  obtain ⟨tfftTx, tfftTrigger, appendNewlines, isEndStream⟩ := reader
  cases tfftTx <;> cases triggers serde tfftTrigger bytes <;> rfl

theorem logged_read {received : List (List UInt8)} {state next : State}
    (logged : Logged serde isStream appendNewlines trigger received state)
    (taken : step serde isStream state .read = some next) :
    ∃ received, Logged serde isStream appendNewlines trigger received next := by
  obtain ⟨split, frames, signals, armed, newlines, unsent, log⟩ := logged
  simp only [step] at taken
  split at taken
  next bytes rest open_ channel =>
    cases taken
    obtain ⟨signal, reader⟩ := @pollFrame_signal serde state.reader bytes
    refine ⟨received ++ [bytes], ?_, ?_, ?_, ?_, ?_, ?_, ?_⟩
    · rw [← split, channel, List.append_assoc, List.singleton_append]
    · simp [pollFrame, frames, newlines]
    · simp only [signal]
      rw [findIdx?_concat, signals, frames, ← armed, List.length_map]
      rw [← armed] at unsent
      simp only [unsent]
      cases received.findIdx? (triggers serde state.reader.tfftTrigger) <;>
        cases triggers serde state.reader.tfftTrigger bytes <;> rfl
    · rw [reader]; exact armed
    · rw [reader]; exact newlines
    · simp only [reader]
      rw [findIdx?_concat, unsent, armed]
      cases received.findIdx? (triggers serde trigger) <;> cases triggers serde trigger bytes <;> rfl
    · intro usage recorded
      cases open_.symm.trans recorded
  next nothing channel =>
    split at taken
    next => cases taken; exact ⟨received, split, frames, signals, armed, newlines, unsent, log⟩
    next gone =>
      cases taken
      refine ⟨received, split, frames, signals, armed, newlines, unsent, fun usage recorded => ?_⟩
      cases recorded
      exact ⟨Bool.eq_false_iff.mpr gone, channel, by rw [frames]⟩
  next => cases taken

theorem logged_step {received : List (List UInt8)} (state : State) (event : Event) (next : State)
    (logged : Logged serde isStream appendNewlines trigger received state)
    (taken : step serde isStream state event = some next) :
    ∃ received, Logged serde isStream appendNewlines trigger received next := by
  cases event with
  | read => exact logged_read logged taken
  | forward =>
    obtain ⟨split, frames, signals, armed, newlines, unsent, log⟩ := logged
    simp only [step] at taken
    split at taken
    next => split at taken <;> cases taken <;> exact ⟨received, split, frames, signals, armed, newlines, unsent, log⟩
    next => cases taken; exact ⟨received, split, frames, signals, armed, newlines, unsent, log⟩
    next => cases taken
  | poll =>
    obtain ⟨split, frames, signals, armed, newlines, unsent, log⟩ := logged
    simp only [step] at taken
    split at taken
    next item rest held items =>
      cases taken
      refine ⟨received, ?_, frames, signals, armed, newlines, unsent, fun usage recorded => ?_⟩
      · rw [tap_eq, ← List.append_assoc, split, chunksOf, chunksOf, chunksOf, List.filterMap_append]
      · exact absurd held (Bool.eq_false_iff.mp (log usage recorded).1)
    next held items =>
      split at taken <;> cases taken <;> exact ⟨received, split, frames, signals, armed, newlines, unsent, log⟩
    next => cases taken
  | dropBody =>
    obtain ⟨split, frames, signals, armed, newlines, unsent, log⟩ := logged
    simp only [step] at taken
    split at taken <;> cases taken
    exact ⟨received, split, frames, signals, armed, newlines, unsent,
      fun usage recorded => ⟨rfl, (log usage recorded).2⟩⟩

theorem logged_run {items : List Item} {source : List (Except SourceError SseEvent)} {events : List Event} {final : State}
    (ran : run (step serde isStream) (.start appendNewlines trigger items source) events = some final) :
    ∃ received, Logged serde isStream appendNewlines trigger received final := by
  have kept (state : State) (event : Event) (next : State)
      (logged : ∃ received, Logged serde isStream appendNewlines trigger received state) (_ : True)
      (taken : step serde isStream state event = some next) :
      ∃ received, Logged serde isStream appendNewlines trigger received next := by
    obtain ⟨_, logged⟩ := logged
    exact logged_step state event next logged taken
  exact run_invariant kept ⟨[], logged_start items source⟩ (along_trivial _ events) ran

/-- The signal is sent at most once, with the first chunk that triggers it among those the
logger has read; a log that is written has read all the client was given. -/
theorem token_signal {items : List Item} {source : List (Except SourceError SseEvent)} {events : List Event} {final : State}
    (ran : run (step serde isStream) (.start appendNewlines trigger items source) events = some final) :
    final.signals = (((chunksOf final.delivered).take final.frames.length).findIdx? (triggers serde trigger)).toList ∧
      (final.log.isSome = true →
        final.frames = (chunksOf final.delivered).map (frame appendNewlines) ∧
          final.signals = ((chunksOf final.delivered).findIdx? (triggers serde trigger)).toList) := by
  obtain ⟨received, logged⟩ := logged_run ran
  constructor
  · rw [logged.signals, logged.frames, ← logged.split, List.length_map, List.take_left]
  · intro written
    obtain ⟨usage, recorded⟩ := Option.isSome_iff_exists.mp written
    obtain ⟨_, drained, _⟩ := logged.log usage recorded
    rw [logged.signals, logged.frames, ← logged.split, drained, List.append_nil]
    exact ⟨rfl, rfl⟩

section Usage

/-- What no JSON text is. -/
structure Grammar (serde : JsonText) : Prop where
  nothing : fromStr serde [] = none
  done : fromStr serde "[DONE]".toList = none
  data : ∀ text, fromStr serde ("data:".toList ++ text) = none

/-- The usage that a text reports, if it is JSON that reports one. -/
def textUsage (serde : JsonText) (text : List Char) : Option UsageTokenCounts :=
  ((fromStr serde (trim text)).bind usageOf).map extractUsageFromUsageObject

/-- The usages that a chunk reports: its first line is data of the log, a further line only
where it says so itself. -/
def chunkUsages (serde : JsonText) (chunk : List UInt8) : List UsageTokenCounts :=
  match lines (chars chunk ++ ['\n']) with
  | line :: further => (textUsage serde line).toList ++ further.filterMap (lineUsage serde)
  | [] => []

theorem foldl_getD {α β : Type} (f : α → Option β) (items : List α) (first : β) :
    items.foldl (fun last item => (f item).getD last) first = ((items.filterMap f).getLast?).getD first := by
  induction items generalizing first with
  | nil => rfl
  | cons item rest ih =>
    rw [List.foldl_cons, ih, List.filterMap_cons]
    cases f item with
    | none => rfl
    | some value => rw [List.getLast?_cons]; rfl

theorem trim_append_blank (text : List Char) {blanks : List Char} (blank : ∀ c ∈ blanks, isWhitespace c = true) :
    trim (text ++ blanks) = trim text := by
  unfold trim
  rw [List.dropWhile_append]
  split
  next empty =>
    rw [List.isEmpty_iff.mp empty, List.dropWhile_eq_nil_iff.mpr blank]
  next =>
    rw [List.reverse_append, List.dropWhile_append_of_pos]
    exact fun c member => blank c (List.mem_reverse.mp member)

theorem trim_stripReturn (line : List Char) : trim (stripReturn line) = trim line := by
  unfold stripReturn
  split
  next ending =>
    obtain ⟨front, rfl⟩ := List.getLast?_eq_some_iff.mp ending
    rw [List.dropLast_concat]
    exact (trim_append_blank front (List.forall_mem_singleton.mpr (by decide))).symm
  next => rfl

/-- A line that begins with a word keeps it, and what follows the word is trimmed with it. -/
theorem trim_word {first last : Char} (begins : isWhitespace first = false) (ends : isWhitespace last = false)
    (middle rest : List Char) :
    ∃ kept, trim (first :: middle ++ [last] ++ rest) = first :: middle ++ [last] ++ kept ∧ trim kept = trim rest := by
  refine ⟨(rest.reverse.dropWhile isWhitespace).reverse, ?_, ?_⟩
  · have word : (first :: middle ++ [last]).reverse.dropWhile isWhitespace = (first :: middle ++ [last]).reverse := by
      rw [List.reverse_append, List.reverse_singleton, List.singleton_append, List.dropWhile_cons_of_neg (by simp [ends])]
    unfold trim
    rw [List.cons_append, List.cons_append, List.dropWhile_cons_of_neg (by simp [begins]), ← List.cons_append,
      ← List.cons_append, List.reverse_append, List.dropWhile_append]
    split
    next empty => rw [List.isEmpty_iff.mp empty, word, List.reverse_reverse, List.reverse_nil, List.append_nil]
    next => simp
  · have split : rest.reverse.takeWhile isWhitespace ++ rest.reverse.dropWhile isWhitespace = rest.reverse :=
      List.takeWhile_append_dropWhile
    have joined := congrArg List.reverse split
    rw [List.reverse_append, List.reverse_reverse] at joined
    conv_rhs => rw [← joined]
    refine (trim_append_blank _ fun c member => ?_).symm
    exact List.mem_takeWhile_imp (List.mem_reverse.mp member)

theorem trim_data (chunk : List Char) :
    ∃ rest, trim ("data: ".toList ++ chunk) = "data:".toList ++ rest ∧ trim rest = trim chunk := by
  obtain ⟨rest, line, same⟩ :=
    trim_word (show isWhitespace 'd' = false by decide) (show isWhitespace ':' = false by decide) "ata".toList (' ' :: chunk)
  exact ⟨rest, line, same⟩

theorem textUsage_stripReturn (line : List Char) : textUsage serde (stripReturn line) = textUsage serde line := by
  rw [textUsage, trim_stripReturn, textUsage]

/-- A chunk of one line is JSON that reports a usage, or reports none. -/
theorem chunkUsages_line {chunk : List UInt8} (whole : '\n' ∉ chars chunk) :
    chunkUsages serde chunk = (textUsage serde (chars chunk)).toList := by
  rw [chunkUsages, lines_cons whole, lines_nil]
  simp [textUsage_stripReturn]

theorem lineUsage_data (grammar : Grammar serde) (chunk : List Char) :
    lineUsage serde (stripReturn ("data: ".toList ++ chunk)) = textUsage serde chunk := by
  obtain ⟨rest, line, same⟩ := trim_data chunk
  have dropped : ("data:".toList ++ rest).dropPrefix? "data:".toList = some rest :=
    List.dropPrefix?_eq_some_iff.mpr ⟨_, rfl, beq_self_eq_true _⟩
  simp only [lineUsage, textUsage]
  rw [trim_stripReturn, line, dropped]
  simp only [same]
  split
  next silent =>
    obtain empty | done := Bool.or_eq_true _ _ ▸ silent
    · rw [List.isEmpty_iff.mp empty, grammar.nothing]; rfl
    · rw [eq_of_beq done, grammar.done]; rfl
  next => rfl

theorem frame_text {chunk : List UInt8} (isText : valid chunk = true) :
    valid (frame true chunk) = true ∧ chars (frame true chunk) = "data: ".toList ++ chars chunk ++ "\n\n".toList := by
  have word : isAscii "data: ".toUTF8.data.toList = true := by decide
  have ending : isAscii "\n\n".toUTF8.data.toList = true := by decide
  have front : valid ("data: ".toUTF8.data.toList ++ chunk) = true := by rw [valid_append (valid_ascii word), isText]
  constructor
  · rw [frame, if_pos rfl, valid_append front, valid_ascii ending]
  · rw [frame, if_pos rfl, chars_append front, chars_append (valid_ascii word), chars_ascii word, chars_ascii ending]
    rfl

/-- The lines of a framed text that report a usage. -/
theorem filterMap_lines_frame (grammar : Grammar serde) (chunk : List UInt8) :
    (lines ("data: ".toList ++ chars chunk ++ ['\n'])).filterMap (lineUsage serde) = chunkUsages serde chunk := by
  have head : '\n' ∉ "data: ".toList := by decide
  rw [chunkUsages]
  by_cases fed : '\n' ∈ chars chunk
  · obtain ⟨line, further, split, whole⟩ := List.eq_append_cons_of_mem fed
    have first : '\n' ∉ "data: ".toList ++ line := by simpa [head] using whole
    rw [split, List.append_assoc, List.append_assoc, List.cons_append, lines_cons whole, ← List.append_assoc,
      lines_cons first, List.filterMap_cons, lineUsage_data grammar]
    simp only [textUsage_stripReturn]
    cases textUsage serde line <;> rfl
  · have first : '\n' ∉ "data: ".toList ++ chars chunk := by simpa [head] using fed
    rw [lines_cons fed, lines_cons first, lines_nil, List.filterMap_cons, lineUsage_data grammar]
    simp only [textUsage_stripReturn]
    cases textUsage serde (chars chunk) <;> rfl

theorem filterMap_lines (grammar : Grammar serde) {chunks : List (List UInt8)}
    (text : ∀ chunk ∈ chunks, valid chunk = true) :
    (lines (chars (chunks.map (frame true)).flatten)).filterMap (lineUsage serde) = chunks.flatMap (chunkUsages serde) := by
  induction chunks with
  | nil =>
    rw [List.map_nil, List.flatten_nil, chars, lines_nil]
    rfl
  | cons chunk rest ih =>
    obtain ⟨framed, same⟩ := frame_text (text chunk (List.mem_cons_self ..))
    have empty := lines_cons List.not_mem_nil (chars (rest.map (frame true)).flatten)
    have cut : chars (frame true chunk) ++ chars (rest.map (frame true)).flatten =
        ("data: ".toList ++ chars chunk) ++ '\n' :: ([] ++ '\n' :: chars (rest.map (frame true)).flatten) := by
      rw [same, List.append_assoc]
      rfl
    rw [List.map_cons, List.flatten_cons, chars_append framed, cut, lines_append, empty, List.filterMap_append,
      filterMap_lines_frame grammar, List.filterMap_cons, List.flatMap_cons,
      ih fun other member => text other (List.mem_cons_of_mem _ member)]
    rfl

/-- The log is text exactly when every chunk is: what stands around a chunk does not complete it. -/
theorem valid_frames (chunks : List (List UInt8)) :
    valid (chunks.map (frame true)).flatten = true ↔ ∀ chunk ∈ chunks, valid chunk = true := by
  have word : isAscii "data: ".toUTF8.data.toList = true := by decide
  have ending : isAscii "\n\n".toUTF8.data.toList = true := by decide
  induction chunks with
  | nil => simp [valid]
  | cons chunk rest ih =>
    have split : (frame true chunk :: rest.map (frame true)).flatten =
        "data: ".toUTF8.data.toList ++ (chunk ++ 10 :: 10 :: (rest.map (frame true)).flatten) := by
      rw [List.flatten_cons, frame, if_pos rfl, List.append_assoc, List.append_assoc]
      rfl
    have feeds : valid (10 :: 10 :: (rest.map (frame true)).flatten) = valid (rest.map (frame true)).flatten :=
      valid_append (valid_ascii ending) _
    rw [List.map_cons, split, valid_append (valid_ascii word), valid_append_ascii chunk (by decide), feeds,
      Bool.and_eq_true, List.forall_mem_cons]
    exact and_congr_right fun _ => ih

/-- The frames as one text are no JSON, so all usage is read off their lines. -/
theorem framed_not_json (grammar : Grammar serde) (chunks : List (List UInt8)) :
    fromSlice serde (chunks.map (frame true)).flatten = none := by
  rw [fromSlice, fromUtf8]
  by_cases text : valid (chunks.map (frame true)).flatten = true
  · rw [if_pos text]
    cases chunks with
    | nil =>
      rw [List.map_nil, List.flatten_nil, chars]
      exact grammar.nothing
    | cons chunk rest =>
      obtain ⟨framed, same⟩ := frame_text ((valid_frames _).mp text chunk (List.mem_cons_self ..))
      rw [List.map_cons, List.flatten_cons, chars_append framed, same]
      exact grammar.data (' ' :: (chars chunk ++ "\n\n".toList ++ chars (rest.map (frame true)).flatten))
  · rw [if_neg text]
    rfl

theorem usage_of_frames (grammar : Grammar serde) (chunks : List (List UInt8)) :
    usageCountsFromResponseBodyForLog serde isStream (chunks.map (frame true)).flatten =
      if ∀ chunk ∈ chunks, valid chunk = true then ((chunks.flatMap (chunkUsages serde)).getLast?).getD {} else {} := by
  have fromSse : usageCountsFromSseDataFrames serde (chunks.map (frame true)).flatten =
      if ∀ chunk ∈ chunks, valid chunk = true then ((chunks.flatMap (chunkUsages serde)).getLast?).getD {} else {} := by
    rw [usageCountsFromSseDataFrames, fromUtf8, ← if_congr (valid_frames chunks) rfl rfl]
    by_cases text : valid (chunks.map (frame true)).flatten = true
    · rw [if_pos text, if_pos text]
      refine (foldl_getD _ _ _).trans ?_
      rw [filterMap_lines grammar ((valid_frames chunks).mp text)]
    · rw [if_neg text, if_neg text]
  rw [usageCountsFromResponseBodyForLog, framed_not_json grammar, ← fromSse]
  simp only [Option.map_none, Option.getD_none, bne_self_eq_false, Bool.and_false, Bool.false_eq_true, if_false]
  split
  next => rfl
  next silent =>
    have nothing : usageCountsFromSseDataFrames serde (chunks.map (frame true)).flatten = {} := by simpa using silent
    exact nothing.symm

/-- The usage in the log of a stream is the last that the lines of the chunks report which the
client was given, and none where no line does or some chunk is no text. -/
theorem logged_usage (grammar : Grammar serde) {source : List (Except SourceError SseEvent)} {start final : State}
    {events : List Event} {usage : UsageTokenCounts} (started : dispatchStream source = .ok start)
    (ran : run (step serde isStream) start events = some final) (recorded : final.log = some usage) :
    usage = if ∀ chunk ∈ chunksOf final.delivered, valid chunk = true then
      (((chunksOf final.delivered).flatMap (chunkUsages serde)).getLast?).getD {} else {} := by
  obtain ⟨items, rest, rfl, _⟩ := dispatchStream_eq started
  obtain ⟨received, logged⟩ := logged_run ran
  obtain ⟨_, drained, rfl⟩ := logged.log usage recorded
  have all := logged.split
  rw [drained, List.append_nil] at all
  rw [all, usage_of_frames grammar]

def tokenChunk : List UInt8 := "\x7b\"choices\":[\x7b\"delta\":\x7b\"content\":\"a\"\x7d\x7d]\x7d".toUTF8.data.toList

def usageChunk : List UInt8 := "\x7b\"usage\":\x7b\"prompt_tokens\":3\x7d\x7d".toUTF8.data.toList

def tokenValue : Json := .object [("choices", .array [.object [("delta", .object [("content", .string "a")])]])]

def usageValue : Json := .object [("usage", .object [("prompt_tokens", .number (.posInt 3))])]

/-- A library that knows the two chunks. -/
def chunkSerde : JsonText where
  print _ := "null"
  parse text :=
    if text = "\x7b\"choices\":[\x7b\"delta\":\x7b\"content\":\"a\"\x7d\x7d]\x7d" then some tokenValue
    else if text = "\x7b\"usage\":\x7b\"prompt_tokens\":3\x7d\x7d" then some usageValue
    else none

theorem chunkSerde_grammar : Grammar chunkSerde := by
  refine ⟨by decide, by decide, fun text => ?_⟩
  have differs (other : String) (brace : other.toList.head? = some '\x7b') :
      String.ofList ("data:".toList ++ text) ≠ other := by
    rintro rfl
    rw [String.toList_ofList] at brace
    cases brace
  exact (if_neg (differs _ (by decide))).trans (if_neg (differs _ (by decide)))

theorem usageChunk_text : valid usageChunk = true ∧ chars usageChunk = "\x7b\"usage\":\x7b\"prompt_tokens\":3\x7d\x7d".toList := by
  have ascii : isAscii usageChunk = true := by decide
  exact ⟨valid_ascii ascii, (chars_ascii ascii).trans (by decide)⟩

theorem tokenChunk_triggers : chunkHasFirstModelToken chunkSerde tokenChunk = true := by
  have ascii : isAscii tokenChunk = true := by decide
  have text : chars tokenChunk = "\x7b\"choices\":[\x7b\"delta\":\x7b\"content\":\"a\"\x7d\x7d]\x7d".toList :=
    (chars_ascii ascii).trans (by decide)
  rw [chunkHasFirstModelToken, fromSlice, fromUtf8, if_pos (valid_ascii ascii), text]
  decide

theorem usage_of_sample :
    ∃ start final, dispatchStream [.ok .opened, sampleMessage usageChunk (by decide)] = .ok start ∧
      run (step chunkSerde true) start [.forward, .poll, .dropBody, .read, .read] = some final ∧
      final.log = some { promptTokens := 3 } := by
  have ⟨start, started⟩ : ∃ start, dispatchStream [.ok .opened, sampleMessage usageChunk (by decide)] = .ok start := ⟨_, rfl⟩
  have ⟨final, usage, ran, recorded, given⟩ : ∃ final usage,
      run (step chunkSerde true) start [.forward, .poll, .dropBody, .read, .read] = some final ∧
        final.log = some usage ∧ final.delivered = [.ok usageChunk] := by
    cases started
    exact ⟨_, _, rfl, rfl, rfl⟩
  have chunks : chunksOf final.delivered = [usageChunk] := by rw [given]; rfl
  have last := logged_usage chunkSerde_grammar started ran recorded
  have line : '\n' ∉ chars usageChunk := by rw [usageChunk_text.2]; decide
  have reported : textUsage chunkSerde (chars usageChunk) = some { promptTokens := 3 } := by
    rw [textUsage, usageChunk_text.2]
    decide
  have isText : ∀ chunk ∈ [usageChunk], valid chunk = true := List.forall_mem_singleton.mpr usageChunk_text.1
  rw [chunks, if_pos isText, List.flatMap_singleton, chunkUsages_line line, reported] at last
  exact ⟨start, final, started, ran, recorded.trans (congrArg some last)⟩

theorem signal_of_sample :
    ∃ final, run (step chunkSerde true) (.start true .firstModelToken [.ok usageChunk, .ok tokenChunk] [])
        [.poll, .poll, .read, .read] = some final ∧ final.signals = [1] := by
  have ⟨final, ran, given, read⟩ : ∃ final,
      run (step chunkSerde true) (.start true .firstModelToken [.ok usageChunk, .ok tokenChunk] [])
          [.poll, .poll, .read, .read] = some final ∧
        final.delivered = [.ok usageChunk, .ok tokenChunk] ∧ final.frames.length = 2 := ⟨_, rfl, rfl, rfl⟩
  have silent : chunkHasFirstModelToken chunkSerde usageChunk = false := by
    rw [chunkHasFirstModelToken, fromSlice, fromUtf8, if_pos usageChunk_text.1, usageChunk_text.2]
    decide
  have sent := (token_signal ran).1
  rw [given, read] at sent
  refine ⟨final, ran, sent.trans ?_⟩
  show (([usageChunk, tokenChunk].findIdx? (chunkHasFirstModelToken chunkSerde)).toList) = [1]
  rw [List.findIdx?_cons, silent, List.findIdx?_cons, tokenChunk_triggers]
  rfl

end Usage

end AiGateway.StreamedResponses
