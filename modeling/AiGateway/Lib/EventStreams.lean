import AiGateway.Lib.Splits

/-! Server-sent events: how a reader of an event stream takes it apart into lines, fields and
the data of events, and that it reads the data back that was framed event by event. -/

namespace AiGateway.Lib.EventStreams

open Splits

/-- The lines that are complete, where the first one has begun already. A line ends in a line
feed, a carriage return or both. -/
def cutLines (begun : List Char) : List Char → List (List Char)
  | [] => []
  | '\n' :: rest => begun :: cutLines [] rest
  | '\r' :: '\n' :: rest => begun :: cutLines [] rest
  | '\r' :: rest => begun :: cutLines [] rest
  | c :: rest => cutLines (begun ++ [c]) rest

/-- The name and the value of the field on a line. A comment has no name. -/
def field (line : List Char) : List Char × List Char :=
  match splitOnce ':' line with
  | some (name, ' ' :: value) => (name, value)
  | some (name, value) => (name, value)
  | none => (line, [])

/-- The data of the events, given what the fields before have added to the first of them. An
event whose end is missing is not read. -/
def interpret (data : List Char) : List (List Char) → List (List Char)
  | [] => []
  | [] :: rest => if data.isEmpty then interpret [] rest else data.dropLast :: interpret [] rest
  | line :: rest =>
    match field line with
    | (['d', 'a', 't', 'a'], value) => interpret (data ++ value ++ ['\n']) rest
    | _ => interpret data rest

def read (text : List Char) : List (List Char) := interpret [] (cutLines [] text)

def dataLine (data : List Char) : List Char := 'd' :: 'a' :: 't' :: 'a' :: ':' :: ' ' :: data

def frame (data : List Char) : List Char := dataLine data ++ ['\n', '\n']

def oneLine (data : List Char) : Prop := '\n' ∉ data ∧ '\r' ∉ data

theorem cutLines_append (begun line rest : List Char) (whole : oneLine line) :
    cutLines begun (line ++ '\n' :: rest) = (begun ++ line) :: cutLines [] rest := by
  induction line generalizing begun with
  | nil => rw [List.append_nil]; rfl
  | cons c line ih =>
    obtain ⟨feed, return_⟩ := whole
    simp only [List.mem_cons, not_or] at feed return_
    rw [List.cons_append, cutLines, ih _ ⟨feed.2, return_.2⟩, List.append_assoc, List.singleton_append]
    · exact fun same => feed.1 same.symm
    · exact fun _ same => absurd same.symm return_.1
    · exact fun same => return_.1 same.symm

theorem field_dataLine (data : List Char) : field (dataLine data) = (['d', 'a', 't', 'a'], data) := by
  have cut : splitOnce ':' (dataLine data) = some (['d', 'a', 't', 'a'], ' ' :: data) :=
    @splitOnce_eq_some ':' ['d', 'a', 't', 'a'] (' ' :: data) (by decide)
  rw [field, cut]
  rfl

/-- One event of one line, then what comes after it. -/
theorem read_frame (data rest : List Char) (whole : oneLine data) : read (frame data ++ rest) = data :: read rest := by
  have line : oneLine (dataLine data) := by
    constructor
    · simpa [dataLine] using whole.1
    · simpa [dataLine] using whole.2
  have first := cutLines_append [] (dataLine data) ('\n' :: rest) line
  have second := cutLines_append [] [] rest ⟨List.not_mem_nil, List.not_mem_nil⟩
  rw [List.nil_append] at first second
  have cut : cutLines [] (frame data ++ rest) = dataLine data :: [] :: cutLines [] rest := by
    rw [frame, List.append_assoc]
    exact first.trans (congrArg _ second)
  rw [read, cut, dataLine, interpret, ← dataLine, field_dataLine]
  · simp only [List.nil_append]
    rw [interpret, if_neg (by simp), List.dropLast_concat, read]
  · exact nofun

theorem read_frames {events : List (List Char)} (whole : ∀ data ∈ events, oneLine data) :
    read (events.flatMap frame) = events := by
  induction events with
  | nil => rfl
  | cons data rest ih =>
    rw [List.flatMap_cons, read_frame data _ (whole data (List.mem_cons_self ..)),
      ih fun other member => whole other (List.mem_cons_of_mem _ member)]

end AiGateway.Lib.EventStreams
