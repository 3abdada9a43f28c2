import Mathlib.Data.List.TakeWhile
import Mathlib.Data.List.Infix

/-!
# One read for each message

A sender writes texts to a stream, each followed by some number of stop
symbols.  A receiver takes the stream in chunks of any size and makes of each
chunk the symbols before its first stop, if there are any.  The receiver gets
back exactly the texts sent if and only if every text is at the start of a
chunk that holds the whole of it and nothing of the next.
-/

namespace Refuge
namespace Foundation

variable {Symbol : Type*} [DecidableEq Symbol]

/-- A text and the number of stop symbols sent after it. -/
structure Padded (Symbol : Type*) where
  text : List Symbol
  padding : Nat

namespace Framing

variable (stop : Symbol)

/-- What the sender writes for one text. -/
def cells (frame : Padded Symbol) : List Symbol :=
  frame.text ++ List.replicate frame.padding stop

/-- The whole stream. -/
def stream (frames : List (Padded Symbol)) : List Symbol :=
  frames.flatMap (cells stop)

/-- The symbols before the first stop. -/
def untilStop (chunk : List Symbol) : List Symbol :=
  chunk.takeWhile fun symbol => symbol ≠ stop

/-- What the receiver makes of the chunks. -/
def received (chunks : List (List Symbol)) : List (List Symbol) :=
  (chunks.map (untilStop stop)).filter fun text => text ≠ []

/-- Every text starts a chunk that holds the whole of it, and no chunk reaches
into the next text. -/
def Aligned : List (Padded Symbol) → List (List Symbol) → Prop
  | [], chunks => chunks = []
  | frame :: frames, chunks =>
      ∃ first rest others,
        chunks = first :: rest ++ others ∧ first ++ rest.flatten = cells stop frame ∧
          frame.text.length ≤ first.length ∧ Aligned frames others

/-- A text that can be told from its padding. -/
def Sendable (frame : Padded Symbol) : Prop :=
  frame.text ≠ [] ∧ stop ∉ frame.text

variable {stop}

theorem received_cons (chunk : List Symbol) (chunks : List (List Symbol)) :
    received stop (chunk :: chunks) =
      if untilStop stop chunk = [] then received stop chunks
      else untilStop stop chunk :: received stop chunks := by
  by_cases empty : untilStop stop chunk = [] <;> simp [received, empty]

theorem received_append (first second : List (List Symbol)) :
    received stop (first ++ second) = received stop first ++ received stop second := by
  simp [received]

/-- A text before stops is read whole. -/
theorem untilStop_append_replicate
    {text : List Symbol} (clean : stop ∉ text) (count : Nat) :
    untilStop stop (text ++ List.replicate count stop) = text := by
  have all : ∀ symbol ∈ text, (decide (symbol ≠ stop)) = true := by
    intro symbol present
    simp only [decide_eq_true_eq]
    rintro rfl
    exact clean present
  rw [untilStop, List.takeWhile_append_of_pos all]
  cases count <;> simp [List.replicate_succ]

/-- Chunks of stops are not received. -/
theorem received_of_flatten_replicate
    {chunks : List (List Symbol)} {count : Nat}
    (stops : chunks.flatten = List.replicate count stop) :
    received stop chunks = [] := by
  induction chunks generalizing count with
  | nil => rfl
  | cons chunk chunks inductionHypothesis =>
      obtain ⟨bound, chunkStops, chunksStop⟩ := List.append_eq_replicate_iff.mp stops
      have nothing := untilStop_append_replicate (List.not_mem_nil (a := stop)) chunk.length
      rw [List.nil_append, ← chunkStops] at nothing
      rw [received_cons, if_pos nothing]
      exact inductionHypothesis chunksStop

/-- Aligned chunks are received as the texts sent. -/
theorem Aligned.received_eq
    {frames : List (Padded Symbol)} {chunks : List (List Symbol)}
    (sendable : ∀ frame ∈ frames, Sendable stop frame)
    (aligned : Aligned stop frames chunks) :
    received stop chunks = frames.map Padded.text := by
  induction frames generalizing chunks with
  | nil =>
      obtain rfl : chunks = [] := aligned
      rfl
  | cons frame frames inductionHypothesis =>
      obtain ⟨first, rest, others, rfl, whole, holds, alignedRest⟩ := aligned
      obtain ⟨nonempty, clean⟩ := sendable frame List.mem_cons_self
      obtain ⟨more, rfl⟩ : frame.text <+: first :=
        List.prefix_of_prefix_length_le (List.prefix_append _ _)
          (whole ▸ List.prefix_append first rest.flatten) holds
      rw [cells, List.append_assoc, List.append_cancel_left_eq] at whole
      obtain ⟨_, moreStops, restStops⟩ := List.append_eq_replicate_iff.mp whole
      have firstText : untilStop stop (frame.text ++ more) = frame.text := by
        rw [moreStops]
        exact untilStop_append_replicate clean _
      rw [List.cons_append, received_cons, firstText, if_neg nonempty, received_append,
        received_of_flatten_replicate restStops, List.nil_append,
        inductionHypothesis (fun other present => sendable other (List.mem_cons_of_mem _ present))
          alignedRest]
      rfl

/-! ## The converse -/

/-- A chunk with nothing but stops after its first one. -/
def Clean (stop : Symbol) (chunk : List Symbol) : Prop :=
  ∃ count, chunk = untilStop stop chunk ++ List.replicate count stop

/-- The symbols of a list that are not stops. -/
def symbols (stop : Symbol) (list : List Symbol) : List Symbol :=
  list.filter fun symbol => symbol ≠ stop

theorem symbols_append (first second : List Symbol) :
    symbols stop (first ++ second) = symbols stop first ++ symbols stop second := by
  simp [symbols]

theorem symbols_eq_self {text : List Symbol} (clean : stop ∉ text) :
    symbols stop text = text := by
  rw [symbols, List.filter_eq_self]
  intro symbol present
  simp only [decide_eq_true_eq]
  rintro rfl
  exact clean present

theorem stop_notMem_untilStop (chunk : List Symbol) : stop ∉ untilStop stop chunk := by
  intro present
  simpa using List.mem_takeWhile_imp present

/-- The stream carries the symbols of the texts. -/
theorem symbols_stream
    {frames : List (Padded Symbol)} (sendable : ∀ frame ∈ frames, Sendable stop frame) :
    symbols stop (stream stop frames) = (frames.map Padded.text).flatten := by
  induction frames with
  | nil => rfl
  | cons frame frames inductionHypothesis =>
      have rest := inductionHypothesis fun other present =>
        sendable other (List.mem_cons_of_mem _ present)
      rw [stream, List.flatMap_cons, symbols_append, cells, symbols_append,
        symbols_eq_self (sendable frame List.mem_cons_self).2]
      rw [stream] at rest
      simp [symbols] at rest ⊢
      simp [rest]

/-- The symbols of a chunk that the receiver does not see. -/
def missed (stop : Symbol) (chunk : List Symbol) : List Symbol :=
  symbols stop (chunk.dropWhile fun symbol => symbol ≠ stop)

theorem symbols_eq_untilStop_append (chunk : List Symbol) :
    symbols stop chunk = untilStop stop chunk ++ missed stop chunk := by
  have split : untilStop stop chunk ++ chunk.dropWhile (fun symbol => symbol ≠ stop) = chunk :=
    List.takeWhile_append_dropWhile
  conv_lhs => rw [← split]
  rw [symbols_append, symbols_eq_self (stop_notMem_untilStop chunk)]
  rfl

/-- Reading a chunk receives what is before its first stop. -/
theorem length_received_cons (chunk : List Symbol) (chunks : List (List Symbol)) :
    (received stop (chunk :: chunks)).flatten.length =
      (untilStop stop chunk).length + (received stop chunks).flatten.length := by
  rw [received_cons]
  split_ifs with empty
  · simp [empty]
  · simp

/-- The receiver gets no more symbols than were sent. -/
theorem length_received_le (chunks : List (List Symbol)) :
    (received stop chunks).flatten.length ≤ (symbols stop chunks.flatten).length := by
  induction chunks with
  | nil => exact le_rfl
  | cons chunk chunks inductionHypothesis =>
      rw [length_received_cons, List.flatten_cons, symbols_append,
        symbols_eq_untilStop_append, List.length_append, List.length_append]
      omega

/-- A chunk of which nothing is missed is clean. -/
theorem clean_of_missed_eq_nil {chunk : List Symbol} (nothing : missed stop chunk = []) :
    Clean stop chunk := by
  have split : untilStop stop chunk ++ chunk.dropWhile (fun symbol => symbol ≠ stop) = chunk :=
    List.takeWhile_append_dropWhile
  refine ⟨(chunk.dropWhile fun symbol => symbol ≠ stop).length, ?_⟩
  conv_lhs => rw [← split]
  congr 1
  rw [List.eq_replicate_iff]
  refine ⟨rfl, fun symbol present => ?_⟩
  rw [missed, symbols, List.filter_eq_nil_iff] at nothing
  simpa using nothing symbol present

/-- When every symbol is received, every chunk is clean. -/
theorem clean_of_received
    {chunks : List (List Symbol)}
    (all : (received stop chunks).flatten.length = (symbols stop chunks.flatten).length) :
    ∀ chunk ∈ chunks, Clean stop chunk := by
  induction chunks with
  | nil => simp
  | cons chunk chunks inductionHypothesis =>
      have atMost : (received stop chunks).flatten.length ≤
          (symbols stop chunks.flatten).length := length_received_le chunks
      rw [length_received_cons, List.flatten_cons, symbols_append,
        symbols_eq_untilStop_append, List.length_append, List.length_append] at all
      intro other present
      rcases List.mem_cons.mp present with rfl | later
      · exact clean_of_missed_eq_nil (List.length_eq_zero_iff.mp (by omega))
      · exact inductionHypothesis (by omega) other later

omit [DecidableEq Symbol] in
/-- Stops before a text that does not start with one are all before it. -/
theorem replicate_append_cancel
    {count padding : Nat} {rest text : List Symbol}
    (notStop : text.head? ≠ some stop)
    (same : List.replicate count stop ++ rest = List.replicate padding stop ++ text) :
    ∃ left, padding = count + left ∧ rest = List.replicate left stop ++ text := by
  induction count generalizing padding with
  | zero => exact ⟨padding, by simp, by simpa using same⟩
  | succ count inductionHypothesis =>
      cases padding with
      | zero =>
          rw [List.replicate_succ, List.cons_append, List.replicate_zero, List.nil_append] at same
          rw [← same] at notStop
          exact absurd rfl notStop
      | succ padding =>
          simp only [List.replicate_succ, List.cons_append, List.cons.injEq, true_and] at same
          obtain ⟨left, rfl, restEq⟩ := inductionHypothesis same
          exact ⟨left, by omega, restEq⟩

omit [DecidableEq Symbol] in
theorem head_stream_ne
    {frames : List (Padded Symbol)} (sendable : ∀ frame ∈ frames, Sendable stop frame) :
    (stream stop frames).head? ≠ some stop := by
  cases frames with
  | nil => simp [stream]
  | cons frame frames =>
      obtain ⟨nonempty, clean⟩ := sendable frame List.mem_cons_self
      obtain ⟨symbol, text, textEq⟩ := List.exists_cons_of_ne_nil nonempty
      simp only [stream, List.flatMap_cons, cells, textEq, List.cons_append, List.head?_cons,
        ne_eq, Option.some.injEq]
      rintro rfl
      exact clean (textEq ▸ List.mem_cons_self)

/-- Clean chunks of a stream that starts with padding split where it ends. -/
theorem split_padding
    {frames : List (Padded Symbol)} (sendable : ∀ frame ∈ frames, Sendable stop frame)
    {chunks : List (List Symbol)} {padding : Nat}
    (cleanChunks : ∀ chunk ∈ chunks, Clean stop chunk)
    (whole : chunks.flatten = List.replicate padding stop ++ stream stop frames) :
    ∃ rest others, chunks = rest ++ others ∧ rest.flatten = List.replicate padding stop ∧
      others.flatten = stream stop frames := by
  induction chunks generalizing padding with
  | nil =>
      obtain ⟨noPadding, noStream⟩ := List.append_eq_nil_iff.mp whole.symm
      exact ⟨[], [], rfl, noPadding.symm, noStream.symm⟩
  | cons chunk chunks inductionHypothesis =>
      cases padding with
      | zero => exact ⟨[], chunk :: chunks, rfl, rfl, whole⟩
      | succ padding =>
          obtain ⟨count, clean⟩ := cleanChunks chunk List.mem_cons_self
          cases before : untilStop stop chunk with
          | cons symbol more =>
              -- A chunk that starts with a symbol is not in the padding.
              rw [before] at clean
              rw [clean, List.replicate_succ, List.flatten_cons, List.cons_append,
                List.cons_append, List.cons_append] at whole
              have present : stop ∈ untilStop stop chunk := by
                rw [before, (List.cons.inj whole).1]
                exact List.mem_cons_self
              exact absurd present (stop_notMem_untilStop chunk)
          | nil =>
              rw [before, List.nil_append] at clean
              rw [List.flatten_cons, clean] at whole
              obtain ⟨left, paddingEq, chunksEq⟩ :=
                replicate_append_cancel (head_stream_ne sendable) whole
              obtain ⟨rest, others, split, restEq, othersEq⟩ := inductionHypothesis
                (fun other present => cleanChunks other (List.mem_cons_of_mem _ present)) chunksEq
              refine ⟨chunk :: rest, others, by rw [split, List.cons_append], ?_, othersEq⟩
              rw [List.flatten_cons, restEq, clean, paddingEq, List.replicate_append_replicate]

/-- A chunk that starts with a text has symbols before its first stop. -/
theorem untilStop_ne_nil
    {chunk text rest whole : List Symbol}
    (nonempty : chunk ≠ []) (someText : text ≠ []) (clean : stop ∉ text)
    (starts : chunk ++ rest = text ++ whole) :
    untilStop stop chunk ≠ [] := by
  obtain ⟨symbol, chunk, rfl⟩ := List.exists_cons_of_ne_nil nonempty
  obtain ⟨first, text, rfl⟩ := List.exists_cons_of_ne_nil someText
  obtain ⟨rfl, _⟩ := List.cons.inj starts
  have notStop : symbol ≠ stop := by
    rintro rfl
    exact clean List.mem_cons_self
  simp [untilStop, notStop]

/-- Chunks received as the texts sent are aligned. -/
theorem aligned_of_received
    {frames : List (Padded Symbol)} (sendable : ∀ frame ∈ frames, Sendable stop frame)
    {chunks : List (List Symbol)}
    (nonempty : ∀ chunk ∈ chunks, chunk ≠ [])
    (cleanChunks : ∀ chunk ∈ chunks, Clean stop chunk)
    (whole : chunks.flatten = stream stop frames)
    (texts : received stop chunks = frames.map Padded.text) :
    Aligned stop frames chunks := by
  induction frames generalizing chunks with
  | nil =>
      cases chunks with
      | nil => rfl
      | cons chunk chunks =>
          have empty : chunk = [] := (List.append_eq_nil_iff.mp whole).1
          exact absurd empty (nonempty chunk List.mem_cons_self)
  | cons frame frames inductionHypothesis =>
      obtain ⟨someText, clean⟩ := sendable frame List.mem_cons_self
      have later : ∀ other ∈ frames, Sendable stop other := fun other present =>
        sendable other (List.mem_cons_of_mem _ present)
      cases chunks with
      | nil => exact nomatch texts
      | cons chunk chunks =>
          rw [List.flatten_cons, stream, List.flatMap_cons, ← stream, cells,
            List.append_assoc] at whole
          have firstText : untilStop stop chunk ≠ [] :=
            untilStop_ne_nil (nonempty chunk List.mem_cons_self) someText clean whole
          rw [received_cons, if_neg firstText, List.map_cons] at texts
          obtain ⟨textEq, laterTexts⟩ := List.cons.inj texts
          obtain ⟨count, chunkEq⟩ := cleanChunks chunk List.mem_cons_self
          rw [textEq] at chunkEq
          rw [chunkEq, List.append_assoc, List.append_cancel_left_eq] at whole
          obtain ⟨left, paddingEq, chunksEq⟩ :=
            replicate_append_cancel (head_stream_ne later) whole
          have laterClean : ∀ other ∈ chunks, Clean stop other := fun other present =>
            cleanChunks other (List.mem_cons_of_mem _ present)
          obtain ⟨rest, others, rfl, restEq, othersEq⟩ :=
            split_padding later laterClean chunksEq
          rw [received_append, received_of_flatten_replicate restEq, List.nil_append] at laterTexts
          refine ⟨chunk, rest, others, by rw [List.cons_append], ?_, ?_, ?_⟩
          · rw [restEq, chunkEq, List.append_assoc, List.replicate_append_replicate, cells,
              paddingEq]
          · rw [chunkEq, List.length_append]
            omega
          · refine inductionHypothesis later (fun other present => ?_) (fun other present => ?_)
              othersEq laterTexts
            · exact nonempty other
                (List.mem_cons_of_mem _ (List.mem_append_right _ present))
            · exact laterClean other (List.mem_append_right _ present)

/-- The receiver gets back exactly the texts sent if and only if the chunks are
aligned with them. -/
theorem received_eq_iff_aligned
    {frames : List (Padded Symbol)} (sendable : ∀ frame ∈ frames, Sendable stop frame)
    {chunks : List (List Symbol)}
    (nonempty : ∀ chunk ∈ chunks, chunk ≠ [])
    (whole : chunks.flatten = stream stop frames) :
    received stop chunks = frames.map Padded.text ↔ Aligned stop frames chunks := by
  constructor
  · intro texts
    have all : (received stop chunks).flatten.length = (symbols stop chunks.flatten).length := by
      rw [whole, symbols_stream sendable, texts]
    exact aligned_of_received sendable nonempty (clean_of_received all) whole texts
  · exact Aligned.received_eq sendable

end Framing
end Foundation
end Refuge
