import Refuge.CText
import Refuge.Foundation.Framing

/-!
# Messages on a TCP stream

`send_message` and `recv_tcp_message` of `comunication_handler.c`.  The server
sends a text with its length, the client a zeroed buffer with its size, and
the receiver calls `recv` once for each message and takes what it gets as a C
string.  A text is received as it was sent exactly when one `recv` starts with
it, holds the whole of it and nothing of the next.  A long text is sent in
slices of `BUFFER_SIZE`, and the last one with the length of the whole text.
-/

namespace Refuge

open Foundation

def BUFFER_SIZE : Nat := 1024
def NUL : Char := '\x00'

/-- What `strncpy` writes: the text cut to the size, and zeros up to it. -/
def strncpy (source : Text) (size : Nat) : List Char :=
  source.take size ++ List.replicate (size - source.length) NUL

section Sending

/- The bytes in memory after the local buffer, which a size beyond it reads. -/
variable (beyond : List Char)

/-- `send_message_to_socket`: what each `send` writes; every `send` succeeds. -/
def sendMessageToSocket (jsonBuffer : List Char) (bSize : Nat) : List (List Char) :=
  if bSize = 0 ∨ jsonBuffer.takeWhile (fun byte => byte ≠ NUL) = [] then []
  else [(jsonBuffer ++ beyond).take bSize]

/-- The loop of `send_message` for a size over `BUFFER_SIZE`: `rest` is the
text from the slice on and `left` the size less the slice. -/
def sendSlices (length : Nat) (rest : Text) (left : Nat) : List (List Char) :=
  if left < BUFFER_SIZE then
    sendMessageToSocket beyond (strncpy rest BUFFER_SIZE) length
  else
    sendMessageToSocket beyond (strncpy rest BUFFER_SIZE) BUFFER_SIZE ++
      sendSlices length (rest.drop BUFFER_SIZE) (left - BUFFER_SIZE)
termination_by left
decreasing_by
  rename_i more
  have : 0 < BUFFER_SIZE := by decide
  omega

/-- `send_message`. -/
def sendMessage (jsonBuffer : Text) (bSize : Nat) : List (List Char) :=
  if bSize ≤ BUFFER_SIZE then
    sendMessageToSocket beyond
      (strncpy jsonBuffer bSize ++ List.replicate (BUFFER_SIZE - bSize) NUL) bSize
  else sendSlices beyond jsonBuffer.length jsonBuffer bSize

end Sending

/-- `recv_tcp_message`: the code, and the C string left in the buffer.  A
`recv` that fails is `none`. -/
def recvTcpMessage : Option (List Char) → Int × Text
  | none => (1, [])
  | some bytes =>
      let socketBuffer := Framing.untilStop NUL bytes
      (if socketBuffer = [] then 1 else 0, socketBuffer)

/-- `recv_udp_message`: the same with `recvfrom`. -/
def recvUdpMessage : Option (List Char) → Int × Text :=
  recvTcpMessage

/-- The texts that successive calls of `recv_tcp_message` return with 0. -/
def recvTexts (reads : List (List Char)) : List Text :=
  ((reads.map fun bytes => recvTcpMessage (some bytes)).filter
    fun result => result.1 = 0).map Prod.snd

/-- A text and how it is sent: with the size of the buffer, as the client does,
or with its length, as the server does. -/
structure Message where
  text : Text
  padded : Bool
  deriving DecidableEq

namespace Message

/-- The size passed to `send_message`. -/
def bSize (message : Message) : Nat :=
  if message.padded then BUFFER_SIZE else message.text.length

/-- The text and the zeros sent after it. -/
def frame (message : Message) : Padded Char where
  text := message.text
  padding := message.bSize - message.text.length

/-- A text that fits the buffer with its terminator. -/
def Valid (message : Message) : Prop :=
  message.text ≠ [] ∧ NUL ∉ message.text ∧ message.text.length < BUFFER_SIZE

/-- The bytes the sender writes for a list of messages. -/
def sent (beyond : List Char) (messages : List Message) : List Char :=
  messages.flatMap fun message => (sendMessage beyond message.text message.bSize).flatten

end Message

/-- A text that fits is sent by one `send`, with zeros up to the size. -/
theorem sendMessage_eq
    (beyond : List Char) {text : Text} {bSize : Nat}
    (nonempty : text ≠ []) (clean : NUL ∉ text)
    (fits : text.length ≤ bSize) (small : bSize ≤ BUFFER_SIZE) :
    sendMessage beyond text bSize =
      [text ++ List.replicate (bSize - text.length) NUL] := by
  have copied : strncpy text bSize = text ++ List.replicate (bSize - text.length) NUL := by
    rw [strncpy, List.take_of_length_le fits]
  have positive : bSize ≠ 0 := by
    have := List.length_pos_iff.mpr nonempty
    omega
  have isText : (text ++ List.replicate (bSize - text.length) NUL ++
      List.replicate (BUFFER_SIZE - bSize) NUL).takeWhile (fun byte => byte ≠ NUL) ≠ [] := by
    have read := Framing.untilStop_append_replicate clean
      (bSize - text.length + (BUFFER_SIZE - bSize))
    rw [Framing.untilStop] at read
    rw [List.append_assoc, List.replicate_append_replicate, read]
    exact nonempty
  rw [sendMessage, if_pos small, sendMessageToSocket, copied,
    if_neg (not_or.mpr ⟨positive, isText⟩), List.append_assoc, List.take_append_of_le_length,
    List.take_of_length_le]
  · simp only [List.length_append, List.length_replicate]
    omega
  · simp only [List.length_append, List.length_replicate]
    omega

theorem recvTexts_eq_received (reads : List (List Char)) :
    recvTexts reads = Framing.received NUL reads := by
  induction reads with
  | nil => rfl
  | cons bytes reads inductionHypothesis =>
      rw [Framing.received_cons, ← inductionHypothesis]
      by_cases empty : Framing.untilStop NUL bytes = [] <;>
        simp [recvTexts, recvTcpMessage, empty]

theorem Message.Valid.sendable {message : Message} (valid : message.Valid) :
    Framing.Sendable NUL message.frame :=
  ⟨valid.1, valid.2.1⟩

theorem Message.sent_eq_stream
    (beyond : List Char) {messages : List Message}
    (valid : ∀ message ∈ messages, message.Valid) :
    Message.sent beyond messages =
      Framing.stream NUL (messages.map Message.frame) := by
  rw [Message.sent, Framing.stream, List.flatMap_map]
  apply List.flatMap_congr
  intro message present
  obtain ⟨nonempty, clean, fits⟩ := valid message present
  have size : message.text.length ≤ message.bSize ∧ message.bSize ≤ BUFFER_SIZE := by
    unfold Message.bSize
    split <;> omega
  rw [sendMessage_eq beyond nonempty clean size.1 size.2]
  simp [Framing.cells, Message.frame]

/-- However the stream of a sequence of messages is cut into reads, the
receiver gets exactly their texts if and only if every message starts a read
that returns the whole of its text and nothing of the next message. -/
theorem recvTexts_eq_texts_iff
    (beyond : List Char) {messages : List Message} {reads : List (List Char)}
    (valid : ∀ message ∈ messages, message.Valid)
    (sizes : ∀ bytes ∈ reads, 1 ≤ bytes.length ∧ bytes.length ≤ BUFFER_SIZE)
    (whole : reads.flatten = Message.sent beyond messages) :
    recvTexts reads = messages.map Message.text ↔
      Framing.Aligned NUL (messages.map Message.frame) reads := by
  have sendable : ∀ frame ∈ messages.map Message.frame, Framing.Sendable NUL frame := by
    intro frame present
    obtain ⟨message, messagePresent, rfl⟩ := List.mem_map.mp present
    exact (valid message messagePresent).sendable
  have nonempty : ∀ bytes ∈ reads, bytes ≠ [] := fun bytes present =>
    List.length_pos_iff.mp (sizes bytes present).1
  have texts : (messages.map Message.frame).map Padded.text = messages.map Message.text := by
    rw [List.map_map]
    rfl
  rw [recvTexts_eq_received, ← texts]
  exact Framing.received_eq_iff_aligned sendable nonempty
    (whole.trans (Message.sent_eq_stream beyond valid))

/-- A short reply and a padded request. -/
def replyThenRequest : List Message :=
  [{ text := "{}".toList, padded := false }, { text := "[]".toList, padded := true }]

/-- Each read on its own, both are received. -/
theorem recvTexts_eq_texts_iff_apart :
    recvTexts ["{}".toList, "[]".toList ++ List.replicate 1022 NUL] =
      ["{}".toList, "[]".toList] := by
  have valid : ∀ message ∈ replyThenRequest, message.Valid := by
    simp only [Message.Valid]
    decide
  have sizes : ∀ bytes ∈ ["{}".toList, "[]".toList ++ List.replicate 1022 NUL],
      1 ≤ bytes.length ∧ bytes.length ≤ BUFFER_SIZE := by
    simp only [List.mem_cons, List.not_mem_nil, or_false, forall_eq_or_imp, forall_eq,
      List.length_append, List.length_replicate]
    decide
  have whole : ["{}".toList, "[]".toList ++ List.replicate 1022 NUL].flatten =
      Message.sent [] replyThenRequest := by
    rw [Message.sent_eq_stream [] valid]
    rfl
  exact (recvTexts_eq_texts_iff [] valid sizes whole).mpr
    ⟨"{}".toList, [], ["[]".toList ++ List.replicate 1022 NUL], rfl, rfl, by decide,
      "[]".toList ++ List.replicate 1022 NUL, [], [], rfl, List.append_nil _,
      (List.prefix_append _ _).length_le, rfl⟩

/-- Two replies read at once are received as one text. -/
theorem recvTexts_joined :
    recvTexts ["{}[]".toList] ≠ ["{}".toList, "[]".toList] ∧
      ["{}[]".toList].flatten = Message.sent []
        [{ text := "{}".toList, padded := false }, { text := "[]".toList, padded := false }] := by
  decide

/-! ## Slices -/

/-- Whatever is in memory after the local buffer, no `send` of a text with its
length reads beyond the buffer, and together they write the text. -/
def SendsExactly (jsonBuffer : Text) : Prop :=
  ∀ beyond, (∀ bytes ∈ sendMessage beyond jsonBuffer jsonBuffer.length,
    bytes.length ≤ BUFFER_SIZE) ∧
      (sendMessage beyond jsonBuffer jsonBuffer.length).flatten = jsonBuffer

/-- A full slice of a text without NUL is sent as it is. -/
theorem sendMessageToSocket_slice
    (beyond : List Char) {rest : Text}
    (clean : NUL ∉ rest) (full : BUFFER_SIZE ≤ rest.length) :
    sendMessageToSocket beyond (strncpy rest BUFFER_SIZE) BUFFER_SIZE =
      [rest.take BUFFER_SIZE] := by
  have copied : strncpy rest BUFFER_SIZE = rest.take BUFFER_SIZE := by
    rw [strncpy, Nat.sub_eq_zero_of_le full, List.replicate_zero, List.append_nil]
  have length : (rest.take BUFFER_SIZE).length = BUFFER_SIZE := by simpa using full
  have isText : (rest.take BUFFER_SIZE).takeWhile (fun byte => byte ≠ NUL) ≠ [] := by
    rw [List.takeWhile_eq_self_iff.mpr]
    · rw [← List.length_pos_iff, length]
      decide
    · intro byte present
      have : byte ≠ NUL := fun same => clean (same ▸ List.mem_of_mem_take present)
      simpa using this
  rw [copied, sendMessageToSocket, if_neg (not_or.mpr ⟨by decide, isText⟩),
    List.take_append_of_le_length length.ge, List.take_of_length_le length.le]

/-- The slices of a text whose length is a multiple of the buffer are the text:
the slice left over is empty and is not sent. -/
theorem sendSlices_of_dvd
    (beyond : List Char) (length : Nat) {rest : Text}
    (clean : NUL ∉ rest) (whole : BUFFER_SIZE ∣ rest.length) :
    (∀ bytes ∈ sendSlices beyond length rest rest.length, bytes.length ≤ BUFFER_SIZE) ∧
      (sendSlices beyond length rest rest.length).flatten = rest := by
  generalize sizeEq : rest.length = left at whole
  fun_induction sendSlices beyond length rest left with
  | case1 rest left short =>
      have none : left = 0 := Nat.eq_zero_of_dvd_of_lt whole short
      obtain rfl : rest = [] := List.length_eq_zero_iff.mp (sizeEq.trans none)
      have blank : (strncpy [] BUFFER_SIZE).takeWhile (fun byte => byte ≠ NUL) = [] := rfl
      rw [sendMessageToSocket, if_pos (Or.inr blank)]
      simp
  | case2 rest left full inductionHypothesis =>
      have enough : BUFFER_SIZE ≤ rest.length := by omega
      obtain ⟨inside, joined⟩ := inductionHypothesis
        (fun present => clean (List.mem_of_mem_drop present))
        (by rw [List.length_drop, sizeEq]) (Nat.dvd_sub whole (dvd_refl _))
      rw [sendMessageToSocket_slice beyond clean enough]
      constructor
      · intro bytes present
        rcases List.mem_append.mp present with first | later
        · rw [List.mem_singleton.mp first, List.length_take]
          exact Nat.min_le_left _ _
        · exact inside bytes later
      · rw [List.flatten_append, joined, List.flatten_singleton, List.take_append_drop]

/-- The slices of another text end with a `send` of the length of the whole
message from the local buffer. -/
theorem exists_mem_sendSlices
    (length : Nat) {rest : Text} (clean : NUL ∉ rest) (partly : ¬BUFFER_SIZE ∣ rest.length)
    (long : BUFFER_SIZE < length) :
    ∃ bytes ∈ sendSlices (List.replicate length NUL) length rest rest.length,
      bytes.length = length := by
  generalize sizeEq : rest.length = left at partly
  generalize beyondEq : List.replicate length NUL = beyond
  fun_induction sendSlices beyond length rest left with
  | case1 rest left short =>
      have nonempty : rest ≠ [] := by
        rintro rfl
        rw [← sizeEq] at partly
        exact partly (Nat.dvd_zero _)
      obtain ⟨byte, more, rfl⟩ := List.exists_cons_of_ne_nil nonempty
      have visible : byte ≠ NUL := fun same => clean (same ▸ List.mem_cons_self)
      have isText : (strncpy (byte :: more) BUFFER_SIZE).takeWhile
          (fun byte => byte ≠ NUL) ≠ [] := by
        rw [strncpy, show BUFFER_SIZE = 1023 + 1 from rfl, List.take_succ_cons,
          List.cons_append, List.takeWhile_cons_of_pos (by simpa using visible)]
        exact List.cons_ne_nil _ _
      have some : length ≠ 0 := by omega
      rw [sendMessageToSocket, if_neg (not_or.mpr ⟨some, isText⟩), ← beyondEq]
      refine ⟨_, List.mem_singleton_self _, ?_⟩
      rw [List.length_take, List.length_append, List.length_replicate]
      omega
  | case2 rest left full inductionHypothesis =>
      obtain ⟨bytes, present, size⟩ := inductionHypothesis
        (fun present => clean (List.mem_of_mem_drop present))
        (by rw [List.length_drop, sizeEq])
        (fun whole => partly ((Nat.dvd_sub_iff_left (by omega) (dvd_refl _)).mp whole))
      exact ⟨bytes, List.mem_append_right _ present, size⟩

/-- A text longer than the buffer, by no multiple of it, is sent with what is
in memory after the buffer. -/
theorem not_sendsExactly
    {jsonBuffer : Text} (clean : NUL ∉ jsonBuffer)
    (long : BUFFER_SIZE < jsonBuffer.length) (partly : ¬BUFFER_SIZE ∣ jsonBuffer.length) :
    ¬SendsExactly jsonBuffer := by
  intro exact
  obtain ⟨bytes, present, size⟩ := exists_mem_sendSlices jsonBuffer.length clean partly long
  have sliced (beyond : List Char) : sendMessage beyond jsonBuffer jsonBuffer.length =
      sendSlices beyond jsonBuffer.length jsonBuffer jsonBuffer.length :=
    if_neg (Nat.not_le.mpr long)
  have inside := (exact (List.replicate jsonBuffer.length NUL)).1 bytes (sliced _ ▸ present)
  omega

/-- A text is sent exactly if and only if it fits the buffer or its length is a
multiple of the buffer's size. -/
theorem sendsExactly_iff
    {jsonBuffer : Text} (nonempty : 1 ≤ jsonBuffer.length) (clean : NUL ∉ jsonBuffer) :
    SendsExactly jsonBuffer ↔
      jsonBuffer.length ≤ BUFFER_SIZE ∨ BUFFER_SIZE ∣ jsonBuffer.length := by
  constructor
  · intro exact
    by_contra long
    rw [not_or, Nat.not_le] at long
    exact not_sendsExactly clean long.1 long.2 exact
  · rintro sized beyond
    by_cases short : jsonBuffer.length ≤ BUFFER_SIZE
    · rw [sendMessage_eq beyond (List.length_pos_iff.mp nonempty) clean le_rfl short]
      simpa using short
    · rw [sendMessage, if_neg short]
      exact sendSlices_of_dvd beyond _ clean (sized.resolve_left short)

private theorem nul_notMem_replicate (length : Nat) : NUL ∉ List.replicate length 'a' :=
  fun present => absurd (List.eq_of_mem_replicate present) (by decide)

/-- Two full slices. -/
theorem sendsExactly_twoSlices : SendsExactly (List.replicate 2048 'a') :=
  (sendsExactly_iff (by rw [List.length_replicate]; decide) (nul_notMem_replicate _)).mpr
    (Or.inr ⟨2, by rw [List.length_replicate]; rfl⟩)

/-- One byte more than the buffer has. -/
theorem not_sendsExactly_oneMore : ¬SendsExactly (List.replicate 1025 'a') :=
  not_sendsExactly (nul_notMem_replicate _)
    (by rw [List.length_replicate]; decide) (by rw [List.length_replicate]; decide)

end Refuge
