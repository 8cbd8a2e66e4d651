import Buddy3dProxy.Codec.Reader
import Buddy3dProxy.Rtsp.Segmentation
import Buddy3dProxy.Rtsp.Forward
import Buddy3dProxy.Rtsp.Framing
import Buddy3dProxy.Rtsp.SdpRoundTrip

/-!
# The client of a connection

All that `handle_connection` and `forward_rtp` in `rtsp/server.rs` write on a connection, and a client
that reads it as a stream: a message that begins with `$` is an interleaved frame (RFC 2326 §10.12), any
other is a response. It learns the channel of the packets from the answer to its SETUP.
-/

namespace Buddy3dProxy.Rtsp

/-! ## The client -/

/-- A message from the server. -/
inductive ClientMessage where
  /-- The lines of the head, and the bytes after it. -/
  | response (lines : List (List Char)) (body : List UInt8)
  | frame (channel : UInt8) (payload : List UInt8)
  deriving DecidableEq, Repr

/-- How many bytes come after a head. -/
def bodyLength (lines : List (List Char)) : Option Nat :=
  match fieldValues "content-length" lines with
  | [] => some 0
  | [value] => Rust.digits? value
  | _ => none

/-- The next `n` bytes and what comes after them, when they are there. -/
def takeBytes (n : Nat) (bytes : List UInt8) : Option (List UInt8 × List UInt8) :=
  if n ≤ bytes.length then some (bytes.take n, bytes.drop n) else none

/-- A frame after its `$`. -/
def readFrame : List UInt8 → Option (ClientMessage × List UInt8)
  | channel :: a :: b :: bytes =>
    (takeBytes (Rust.u16FromBe a b) bytes).map fun x => (.frame channel x.1, x.2)
  | _ => none

def readResponse (bytes : List UInt8) : Option (ClientMessage × List UInt8) := do
  let idx ← Rust.find [13, 10, 13, 10] bytes
  let head ← Rust.fromUtf8 (bytes.take idx)
  let n ← bodyLength (Rust.split crlf head)
  let (body, rest) ← takeBytes n (bytes.drop (idx + 4))
  return (.response (Rust.split crlf head) body, rest)

def readMessage : List UInt8 → Option (ClientMessage × List UInt8)
  | [] => none
  | b :: bytes => if b = 0x24 then readFrame bytes else readResponse (b :: bytes)

/-! ### Its reader -/

theorem takeBytes_append {n : Nat} {body bytes rest : List UInt8}
    (h : takeBytes n bytes = some (body, rest)) (t : List UInt8) :
    takeBytes n (bytes ++ t) = some (body, rest ++ t) := by
  unfold takeBytes at h ⊢
  by_cases hn : n ≤ bytes.length
  · rw [if_pos hn] at h
    cases h
    rw [if_pos (by rw [List.length_append]; omega), List.take_append_of_le_length hn,
      List.drop_append_of_le_length hn]
  · rw [if_neg hn] at h
    cases h

theorem length_of_takeBytes {n : Nat} {body bytes rest : List UInt8}
    (h : takeBytes n bytes = some (body, rest)) : rest.length ≤ bytes.length := by
  unfold takeBytes at h
  split at h
  · cases h
    rw [List.length_drop]
    omega
  · cases h

theorem takeBytes_length (body t : List UInt8) : takeBytes body.length (body ++ t) = some (body, t) := by
  unfold takeBytes
  rw [if_pos (by rw [List.length_append]; omega), List.take_left' rfl, List.drop_left' rfl]

theorem readFrame_eq_some {bytes rest : List UInt8} {m : ClientMessage} :
    readFrame bytes = some (m, rest) ↔ ∃ channel a b tail payload, bytes = channel :: a :: b :: tail ∧
      takeBytes (Rust.u16FromBe a b) tail = some (payload, rest) ∧ m = .frame channel payload := by
  constructor
  · intro h
    match bytes, h with
    | channel :: a :: b :: tail, h =>
      obtain ⟨⟨payload, rest'⟩, htake, heq⟩ := Option.map_eq_some_iff.mp h
      cases heq
      exact ⟨channel, a, b, tail, payload, rfl, htake, rfl⟩
  · rintro ⟨channel, a, b, tail, payload, rfl, htake, rfl⟩
    rw [readFrame, htake]
    rfl

/-- The parts of a response that is read. -/
structure ReadsResponse (bytes : List UInt8) (idx : Nat) (head : List Char) (body rest : List UInt8) :
    Prop where
  find : Rust.find [13, 10, 13, 10] bytes = some idx
  text : Rust.fromUtf8 (bytes.take idx) = some head
  body : ∃ n, bodyLength (Rust.split crlf head) = some n ∧
    takeBytes n (bytes.drop (idx + 4)) = some (body, rest)

theorem readResponse_eq_some {bytes rest : List UInt8} {m : ClientMessage} :
    readResponse bytes = some (m, rest) ↔ ∃ idx head body,
      ReadsResponse bytes idx head body rest ∧ m = .response (Rust.split crlf head) body := by
  constructor
  · intro h
    simp only [readResponse, Option.bind_eq_bind, Option.bind_eq_some_iff, Option.pure_def,
      Option.some.injEq, Prod.mk.injEq] at h
    obtain ⟨idx, hfind, head, hhead, n, hn, ⟨body, rest'⟩, htake, rfl, rfl⟩ := h
    exact ⟨idx, head, body, ⟨hfind, hhead, n, hn, htake⟩, rfl⟩
  · rintro ⟨idx, head, body, ⟨hfind, hhead, n, hn, htake⟩, rfl⟩
    simp [readResponse, hfind, hhead, hn, htake]

theorem ReadsResponse.append {bytes body rest : List UInt8} {idx : Nat} {head : List Char}
    (h : ReadsResponse bytes idx head body rest) (t : List UInt8) :
    ReadsResponse (bytes ++ t) idx head body (rest ++ t) where
  find := Rust.find_append h.find t
  text := by
    have hidx : idx + 4 ≤ bytes.length := Rust.find_length_le h.find
    rw [List.take_append_of_le_length (by omega)]
    exact h.text
  body := by
    have hidx : idx + 4 ≤ bytes.length := Rust.find_length_le h.find
    obtain ⟨n, hn, htake⟩ := h.body
    rw [List.drop_append_of_le_length hidx]
    exact ⟨n, hn, takeBytes_append htake t⟩

theorem readMessage_shrinks {bytes rest : List UInt8} {m : ClientMessage}
    (h : readMessage bytes = some (m, rest)) : rest.length < bytes.length := by
  cases bytes with
  | nil => cases h
  | cons b bytes =>
    by_cases hdollar : b = 0x24
    · rw [readMessage, if_pos hdollar, readFrame_eq_some] at h
      obtain ⟨channel, a, c, tail, payload, rfl, htake, -⟩ := h
      have hrest := length_of_takeBytes htake
      simp only [List.length_cons]
      omega
    · rw [readMessage, if_neg hdollar, readResponse_eq_some] at h
      obtain ⟨idx, head, body, hreads, -⟩ := h
      obtain ⟨n, -, htake⟩ := hreads.body
      have hidx : idx + 4 ≤ (b :: bytes).length := Rust.find_length_le hreads.find
      have hrest := length_of_takeBytes htake
      rw [List.length_drop] at hrest
      omega

theorem readMessage_stable {bytes rest : List UInt8} {m : ClientMessage} (t : List UInt8)
    (h : readMessage bytes = some (m, rest)) : readMessage (bytes ++ t) = some (m, rest ++ t) := by
  cases bytes with
  | nil => cases h
  | cons b bytes =>
    rw [List.cons_append]
    by_cases hdollar : b = 0x24
    · rw [readMessage, if_pos hdollar, readFrame_eq_some] at h ⊢
      obtain ⟨channel, a, c, tail, payload, rfl, htake, rfl⟩ := h
      exact ⟨channel, a, c, tail ++ t, payload, rfl, takeBytes_append htake t, rfl⟩
    · rw [readMessage, if_neg hdollar, readResponse_eq_some] at h ⊢
      obtain ⟨idx, head, body, hreads, rfl⟩ := h
      exact ⟨idx, head, body, hreads.append t, rfl⟩

def client : Codec.Reader UInt8 ClientMessage where
  read := readMessage
  shrinks := readMessage_shrinks
  stable := readMessage_stable

theorem client_read (bytes : List UInt8) : client.read bytes = readMessage bytes := rfl

/-! ## What the server writes -/

/-- `response.format().as_bytes()`. -/
def Response.bytes (r : Response) : List UInt8 := Rust.utf8 r.format.toList

/-- A response as its client should read it. -/
def Response.message (r : Response) : ClientMessage :=
  .response r.lines (Rust.utf8 (r.body.getD "").toList)

/-- A packet as its client should read it. -/
def RtpPacket.message (channel : UInt8) (p : RtpPacket) : ClientMessage :=
  .frame channel (headerToBytes p.header ++ p.payload)

/-- All that is written on a connection, with these turns of the forwarding loop; `none` is a panic. -/
def written (turns : List ForwardEvent) : List ConnEvent → Option (List UInt8)
  | [] => some []
  | .answered response :: log => (written turns log).map (response.bytes ++ ·)
  | .streaming channel :: log => do
    let frames ← forwardRtp channel turns
    let more ← written turns log
    return frames ++ more
  | .took _ :: log => written turns log
  | .subscribing _ :: log => written turns log
  | .closed :: log => written turns log

/-- The channels on which packets are forwarded. -/
def streamed (log : List ConnEvent) : List UInt8 :=
  log.filterMap fun
    | .streaming channel => some channel
    | _ => none

/-- The responses, and after them the packets. -/
def messages (turns : List ForwardEvent) (log : List ConnEvent) : List ClientMessage :=
  (responses log).map Response.message ++
    (streamed log).flatMap fun channel => (forwarded turns).map (RtpPacket.message channel)

/-- What the answer to a SETUP says. -/
def ClientMessage.rtpChannel? : ClientMessage → Option UInt8
  | .response lines _ => (fieldValues "transport" lines).head?.bind fun value =>
    (parseInterleaved (String.ofList value)).map Prod.fst
  | .frame _ _ => none

/-- The channel that a client has been told last. -/
def channelOf (seen : List ClientMessage) : Option UInt8 :=
  (seen.filterMap ClientMessage.rtpChannel?).getLast?

/-! ### Responses -/

theorem bodyLength_lines {r : Response} {cseq : UInt32} (h : r.Clean cseq) :
    bodyLength r.lines = some (Rust.utf8 (r.body.getD "").toList).length := by
  have hlength := h.framed.contentLength
  unfold bodyLength
  rw [hlength]
  cases r.body with
  | none => rfl
  | some body =>
    have hdigits : (toString (Rust.utf8 body.toList).length).toList =
        Nat.toDigits 10 (Rust.utf8 body.toList).length := by simp [toString]
    simp only [Option.map_some, Option.toList_some, hdigits, Rust.digits?_toDigits, Option.getD_some]

theorem readMessage_of_head {bytes : List UInt8} (h : bytes.head? ≠ some 0x24) :
    readMessage bytes = readResponse bytes := by
  cases bytes with
  | nil => rfl
  | cons b bytes => exact if_neg fun hb => h (congrArg some hb)

/-- The bytes of a response, whatever comes after them: the first empty line ends the head, and the head
is made of the response's lines. -/
theorem Response.Clean.head {r : Response} {cseq : UInt32} (h : r.Clean cseq) :
    ∃ head : List Char, Rust.split crlf head = r.lines ∧ (Rust.utf8 head).head? = some 0x52 ∧ ∀ t,
      r.bytes ++ t = Rust.utf8 head ++ [13, 10, 13, 10] ++ (Rust.utf8 (r.body.getD "").toList ++ t) ∧
        Rust.find [13, 10, 13, 10] (r.bytes ++ t) = some (Rust.utf8 head).length := by
  obtain ⟨hfirst, hrest⟩ := h.unbroken
  have hempty : Rust.utf8 crlf = [13, 10] := rfl
  have hformat : r.format.toList = r.statusLine ++ r.lines.tail.flatMap (crlf ++ ·) ++ crlf ++ crlf ++
      (r.body.getD "").toList := by
    rw [r.toList_format, show r.lines = r.statusLine :: r.lines.tail from rfl,
      Rust.flatMap_append_separator]
    rfl
  have hbytes : ∀ t, r.bytes ++ t = Rust.utf8 (r.statusLine ++ r.lines.tail.flatMap (crlf ++ ·)) ++
      [13, 10, 13, 10] ++ (Rust.utf8 (r.body.getD "").toList ++ t) := by
    intro t
    unfold Response.bytes
    rw [hformat]
    simp only [Rust.utf8_append, hempty, List.append_assoc, List.cons_append, List.nil_append]
  refine ⟨r.statusLine ++ r.lines.tail.flatMap (crlf ++ ·), ?_, ?_, ?_⟩
  · exact Rust.split_lines (by decide) hfirst fun line hline => (hrest line hline).2
  · unfold Response.statusLine
    simp only [String.toList_append]
    rfl
  · intro t
    have hunbroken : ∀ line ∈ r.lines.tail.map Rust.utf8, line ≠ [] ∧ ¬ [13, 10] <:+: line := by
      intro line hline
      obtain ⟨text, htext, rfl⟩ := List.mem_map.mp hline
      obtain ⟨hne, hcrlf⟩ := hrest text htext
      obtain ⟨c, tail, rfl⟩ := List.exists_cons_of_ne_nil hne
      exact ⟨by simp [String.utf8EncodeChar_ne_nil], not_infix_utf8 hcrlf⟩
    have hfind := Rust.find_lines (by decide) (not_infix_utf8 hfirst) hunbroken
      (Rust.utf8 (r.body.getD "").toList ++ t)
    refine ⟨hbytes t, ?_⟩
    rw [hbytes t, Rust.utf8_append, utf8_lines]
    simpa using hfind

theorem Response.Clean.writes {r : Response} {cseq : UInt32} (h : r.Clean cseq) :
    client.Writes r.message r.bytes := by
  intro t
  obtain ⟨head, hsplit, hstart, hall⟩ := h.head
  obtain ⟨hbytes, hfind⟩ := hall t
  have hdollar : (r.bytes ++ t).head? ≠ some 0x24 := by
    rw [hbytes, List.append_assoc, List.head?_append, hstart, Option.some_or]
    decide
  rw [client_read, readMessage_of_head hdollar, readResponse_eq_some]
  refine ⟨_, head, Rust.utf8 (r.body.getD "").toList, ⟨hfind, ?_, ?_⟩, ?_⟩
  · rw [hbytes, List.append_assoc, List.take_left' rfl, Rust.fromUtf8_utf8]
  · rw [hsplit, bodyLength_lines h, hbytes, List.drop_left' (by simp)]
    exact ⟨_, rfl, takeBytes_length _ t⟩
  · rw [hsplit]
    rfl

/-! ### Packets -/

theorem writes_encodeFrame {channel : UInt8} {payload frame : List UInt8}
    (h : encodeFrame channel payload = some frame) : client.Writes (.frame channel payload) frame := by
  unfold encodeFrame at h
  split at h
  next hle =>
    cases h
    intro t
    have hlen := Rust.u16FromBe_ofNat (n := payload.length) (by omega)
    rw [client_read, List.cons_append, readMessage, if_pos rfl, readFrame_eq_some]
    refine ⟨channel, _, _, payload ++ t, payload, rfl, ?_, rfl⟩
    rw [hlen]
    exact takeBytes_length payload t
  · cases h

/-- The packets forwarded, whatever comes after them. -/
theorem drain_forwardRtp {channel : UInt8} {turns : List ForwardEvent} {bytes : List UInt8}
    (h : forwardRtp channel turns = some bytes) (t : List UInt8) :
    client.drain (bytes ++ t) = ((forwarded turns).map (RtpPacket.message channel) ++
      (client.drain t).1, (client.drain t).2) := by
  induction turns generalizing bytes with
  | nil =>
    cases h
    rfl
  | cons turn turns ih =>
    cases turn with
    | packet p =>
      simp only [forwardRtp, Option.bind_eq_bind, Option.bind_eq_some_iff, Option.pure_def,
        Option.some.injEq] at h
      obtain ⟨frame, hframe, more, hmore, rfl⟩ := h
      rw [List.append_assoc, (writes_encodeFrame hframe).drain, ih hmore]
      rfl
    | lagged n => exact ih h
    | closed =>
      cases h
      rfl
    | read n =>
      by_cases hn : n = 0
      · rw [forwardRtp, if_pos hn] at h
        cases h
        rw [forwarded, if_pos hn]
        rfl
      · rw [forwardRtp, if_neg hn] at h
        rw [forwarded, if_neg hn]
        exact ih h
    | readError =>
      cases h
      rfl

/-! ## The channel of the packets -/

theorem channelOf_append (seen : List ClientMessage) (m : ClientMessage) :
    channelOf (seen ++ [m]) = m.rtpChannel?.or (channelOf seen) := by
  unfold channelOf
  rw [List.filterMap_append]
  cases hm : m.rtpChannel? with
  | none => simp [hm]
  | some channel => simp [hm]

/-- The values of a field that only the headers of a response can have. -/
theorem Response.Clean.fieldValues_headers {r : Response} {cseq : UInt32} (h : r.Clean cseq)
    {name : String} (hcseq : Rust.toAsciiLowercase "CSeq".toList ≠ name.toList)
    (hlength : Rust.toAsciiLowercase "Content-Length".toList ≠ name.toList) :
    fieldValues name r.lines = r.headers.filterMap fun x =>
      if Rust.toAsciiLowercase x.1.toList = name.toList then some (Rust.trim (' ' :: x.2.toList))
      else none := by
  have hfirst : fieldValue? name r.statusLine = none := by
    unfold fieldValue?
    rw [Rust.splitOnce_eq_none fun hc => h.statusLine ':' hc (by simp)]
  have hown : ∀ field value : String, ':' ∉ field.toList →
      Rust.toAsciiLowercase field.toList ≠ name.toList → fieldValue? name (headerLine field value) = none := by
    intro field value hcolon hne
    rw [fieldValue?_headerLine hcolon, if_neg hne]
  have hbody : (r.body.map fun b =>
      headerLine "Content-Length" (toString (Rust.utf8 b.toList).length)).toList.filterMap
        (fieldValue? name) = [] := by
    cases r.body with
    | none => rfl
    | some body =>
      rw [Option.map_some, Option.toList_some,
        List.filterMap_cons_none (hown _ _ (by decide) hlength), List.filterMap_nil]
  unfold fieldValues Response.lines
  rw [List.filterMap_cons_none hfirst, List.filterMap_cons_none (hown _ _ (by decide) hcseq),
    List.filterMap_append, hbody, List.nil_append, List.filterMap_map]
  apply List.filterMap_congr
  intro x hx
  exact fieldValue?_headerLine (fun hc => (h.names x hx).1 ':' hc (by simp)) name x.2

/-- The last part of a SETUP's transport. -/
def interleavedPart (lo hi : UInt8) : List Char :=
  "interleaved=".toList ++ ((toString lo).toList ++ '-' :: (toString hi).toList)

theorem isDigit_of_mem_toString_uint8 {n : UInt8} {c : Char} (h : c ∈ (toString n).toList) :
    c.isDigit = true := isDigit_of_mem_toString (n := n.toNat) h

theorem of_mem_interleavedPart {lo hi : UInt8} {c : Char} (h : c ∈ interleavedPart lo hi) :
    c ∈ "interleaved=".toList ∨ c = '-' ∨ c.isDigit = true := by
  unfold interleavedPart at h
  rw [List.mem_append, List.mem_append, List.mem_cons] at h
  rcases h with hname | hlo | hdash | hhi
  · exact .inl hname
  · exact .inr (.inr (isDigit_of_mem_toString_uint8 hlo))
  · exact .inr (.inl hdash)
  · exact .inr (.inr (isDigit_of_mem_toString_uint8 hhi))

theorem isWhitespace_of_mem_interleavedPart {lo hi : UInt8} {c : Char} (h : c ∈ interleavedPart lo hi) :
    Rust.isWhitespace c = false := by
  rcases of_mem_interleavedPart h with hname | rfl | hdigit
  · have hall : ∀ c ∈ "interleaved=".toList, Rust.isWhitespace c = false := by decide
    exact hall c hname
  · decide
  · exact Rust.isWhitespace_of_isDigit hdigit

theorem toList_transportValue (lo hi : UInt8) : (transportValue lo hi).toList =
    "RTP/AVP/TCP".toList ++ ';' :: ("unicast".toList ++ ';' :: interleavedPart lo hi) := by
  unfold transportValue interleavedPart
  simp only [String.toList_append, List.append_assoc]
  rfl

/-- A client reads back the channels of a SETUP's answer. -/
theorem parseInterleaved_transportValue (lo hi : UInt8) :
    parseInterleaved (transportValue lo hi) = some (lo, hi) := by
  have hsemi : ';' ∉ interleavedPart lo hi := by
    intro hmem
    rcases of_mem_interleavedPart hmem with hname | hdash | hdigit
    · exact absurd hname (by decide)
    · cases hdash
    · simp at hdigit
  have hsplit : Rust.split [';'] (transportValue lo hi).toList =
      ["RTP/AVP/TCP".toList, "unicast".toList, interleavedPart lo hi] := by
    rw [toList_transportValue, Rust.split_singleton_append (by decide), Rust.split_singleton_append (by decide),
      Rust.split_singleton hsemi]
  have htrim : Rust.trim (interleavedPart lo hi) = interleavedPart lo hi :=
    Rust.trim_eq_self fun c hc => isWhitespace_of_mem_interleavedPart hc
  have hinfix : "RTP/AVP/TCP".toList <:+: (transportValue lo hi).toList := by
    rw [toList_transportValue]
    exact (List.prefix_append _ _).isInfix
  have hpart : "interleaved=".toList.isPrefixOf? (Rust.trim (interleavedPart lo hi)) =
      some ((toString lo).toList ++ '-' :: (toString hi).toList) := by
    rw [htrim, List.isPrefixOf?_eq_some_iff_append_eq]
    rfl
  have hrtp : "interleaved=".toList.isPrefixOf? (Rust.trim "RTP/AVP/TCP".toList) = none := by decide
  have hunicast : "interleaved=".toList.isPrefixOf? (Rust.trim "unicast".toList) = none := by decide
  have hdash : '-' ∉ (toString lo).toList := by
    intro hmem
    have hdigit := isDigit_of_mem_toString_uint8 hmem
    simp at hdigit
  unfold parseInterleaved
  rw [if_pos hinfix, hsplit]
  simp only [List.findSome?, hrtp, hunicast, hpart, Rust.splitOnce_append hdash]
  simp [parseUnsigned_toString]

/-- The session keeps the channel that the client has been told last, and has one once it is set up. -/
structure Session.Told (seen : List ClientMessage) (s : Session) : Prop where
  channel : s.rtpChannel = channelOf seen
  setUp : s.state = .setUp → s.rtpChannel.isSome

/-- The names of a response's headers, in lower case. -/
def Response.names (r : Response) : List (List Char) :=
  r.headers.map fun x => Rust.toAsciiLowercase x.1.toList

@[simp] theorem Response.names_ok (cseq : UInt32) : (Response.ok cseq).names = [] := rfl

@[simp] theorem Response.names_error (status : Nat) (reason : String) (cseq : UInt32) :
    (Response.error status reason cseq).names = [] := rfl

@[simp] theorem Response.names_withHeader (r : Response) (name value : String) :
    (r.withHeader name value).names = r.names ++ [Rust.toAsciiLowercase name.toList] := by
  simp [names, withHeader]

@[simp] theorem Response.names_withBody (r : Response) (contentType body : String) :
    (r.withBody contentType body).names = r.names ++ [Rust.toAsciiLowercase "Content-Type".toList] := by
  simp [names, withBody]

theorem rtpChannel?_message (r : Response) :
    r.message.rtpChannel? = (fieldValues "transport" r.lines).head?.bind fun value =>
      (parseInterleaved (String.ofList value)).map Prod.fst := rfl

theorem rtpChannel?_of_names {r : Response} {cseq : UInt32} (h : r.Clean cseq)
    (hnames : "transport".toList ∉ r.names) : r.message.rtpChannel? = none := by
  have hnone : fieldValues "transport" r.lines = [] := by
    rw [h.fieldValues_headers (by decide) (by decide), List.filterMap_eq_nil_iff]
    intro x hx
    exact if_neg fun heq => hnames (List.mem_map.mpr ⟨x, hx, heq⟩)
  rw [rtpChannel?_message, hnone]
  rfl

theorem trim_transportValue (lo hi : UInt8) :
    Rust.trim (' ' :: (transportValue lo hi).toList) = (transportValue lo hi).toList := by
  have hspace : ∀ c ∈ [' '], Rust.isWhitespace c = true := by decide
  have htrim : Rust.trim (transportValue lo hi).toList = (transportValue lo hi).toList := by
    apply Rust.trim_eq_self
    rw [toList_transportValue, List.forall_mem_append, List.forall_mem_cons, List.forall_mem_append,
      List.forall_mem_cons]
    exact ⟨by decide, by decide, by decide, by decide, fun c hc => isWhitespace_of_mem_interleavedPart hc⟩
  have hpadded := Rust.trim_padded htrim hspace (List.forall_mem_nil _)
  simpa using hpadded

theorem rtpChannel?_transport {r : Response} {cseq : UInt32} (h : r.Clean cseq) {lo hi : UInt8}
    {rest : List (String × String)} (hheaders : r.headers = ("Transport", transportValue lo hi) :: rest) :
    r.message.rtpChannel? = some lo := by
  have hname : Rust.toAsciiLowercase "Transport".toList = "transport".toList := by decide
  have hvalues : (fieldValues "transport" r.lines).head? = some (transportValue lo hi).toList := by
    rw [h.fieldValues_headers (by decide) (by decide), hheaders, List.filterMap_cons]
    simp only [hname, if_true, trim_transportValue, List.head?_cons]
  rw [rtpChannel?_message, hvalues]
  simp [parseInterleaved_transportValue]

/-- An exchange leaves the session with the channel that the client reads in the response. -/
theorem Session.Told.handle {seen : List ClientMessage} {s : Session} (h : s.Told seen) {req : Request}
    {ctx : SessionContext} (hclean : (s.handle req ctx).2.1.Clean (req.cseq.getD 0)) :
    (s.handle req ctx).1.Told (seen ++ [(s.handle req ctx).2.1.message]) ∧
      ∀ channel, (s.handle req ctx).2.2 = .startStreaming channel →
        channelOf (seen ++ [(s.handle req ctx).2.1.message]) = some channel := by
  have houtcome := s.handle_outcome req ctx
  generalize s.handle req ctx = result at houtcome hclean
  -- of all responses only that to a SETUP names a channel
  have hsame : "transport".toList ∉ result.2.1.names →
      channelOf (seen ++ [result.2.1.message]) = s.rtpChannel := by
    intro hnames
    rw [channelOf_append, rtpChannel?_of_names hclean hnames, h.channel]
    rfl
  cases houtcome with
  | notFound huri hm => exact ⟨⟨(hsame (by simp)).symm, h.setUp⟩, by simp⟩
  | refused status reason huri hm hmem => exact ⟨⟨(hsame (by simp)).symm, h.setUp⟩, by simp⟩
  | options hm => exact ⟨⟨(hsame (by simp; decide)).symm, h.setUp⟩, by simp⟩
  | described huri hm => exact ⟨⟨(hsame (by simp; decide)).symm, by simp⟩, by simp⟩
  | setUp lo hi huri hm =>
    refine ⟨⟨?_, by simp⟩, by simp⟩
    rw [channelOf_append, rtpChannel?_transport hclean rfl]
    rfl
  | noSession huri hm hstate hopt => exact ⟨⟨(hsame (by simp)).symm, h.setUp⟩, by simp⟩
  | playing sessionId huri hm hstate hopt =>
    have hkept := hsame (by simp; decide)
    refine ⟨⟨hkept.symm, by simp⟩, ?_⟩
    intro channel hstart
    obtain ⟨c, hc⟩ := Option.isSome_iff_exists.mp (h.setUp hstate)
    rw [hkept, hc]
    simpa [hc] using hstart
  | tornDown huri hm => exact ⟨⟨(hsame (by simp; decide)).symm, by simp⟩, by simp⟩
  | alive response huri hm hresponse =>
    refine ⟨⟨(hsame ?_).symm, h.setUp⟩, by simp⟩
    rcases hresponse with rfl | rfl
    · simp
    · simp; decide

/-! ## The connection -/

/-- The id of a connection's session, from the number of connections before it. -/
def sessionIdOf (counter : UInt64) : String := "BUDDY3D-" ++ toString counter

/-- A log whose responses a client can read, and that ends, if packets are forwarded, with them on the
channel told last; `seen` is what the client has read before. -/
inductive Tells : List ClientMessage → List ConnEvent → Prop where
  | nil (seen : List ClientMessage) : Tells seen []
  | took {seen : List ClientMessage} {log : List ConnEvent} (req : Request) :
      Tells seen log → Tells seen (.took req :: log)
  | subscribing {seen : List ClientMessage} {log : List ConnEvent} (req : Request) :
      Tells seen log → Tells seen (.subscribing req :: log)
  | answered {seen : List ClientMessage} {log : List ConnEvent} {r : Response} {cseq : UInt32} :
      r.Clean cseq → Tells (seen ++ [r.message]) log → Tells seen (.answered r :: log)
  | streaming {seen : List ClientMessage} {channel : UInt8} :
      channelOf seen = some channel → Tells seen [.streaming channel]
  | closed {seen : List ClientMessage} {log : List ConnEvent} :
      Tells seen log → Tells seen (.closed :: log)

/-- A part of a run with such a log. If the run goes on, then with a state that is as `good` says of
what the client has read by then. -/
structure Progress.Tells {α : Type} (seen : List ClientMessage) (x : Progress α)
    (good : List ClientMessage → α → Prop) : Prop where
  ended : x.next = none → Rtsp.Tells seen x.events
  goesOn : ∀ a, x.next = some a → ∃ seen', good seen' a ∧
    ∀ log, Rtsp.Tells seen' log → Rtsp.Tells seen (x.events ++ log)

section Tells

variable {α β : Type} {seen seen' : List ClientMessage} {good : List ClientMessage → α → Prop}

theorem Progress.tells_end {events : List ConnEvent} (h : Rtsp.Tells seen events) :
    Progress.Tells seen ⟨events, none⟩ good := ⟨fun _ => h, by simp⟩

theorem Progress.tells_next {events : List ConnEvent} {a : α} (hgood : good seen' a)
    (h : ∀ log, Rtsp.Tells seen' log → Rtsp.Tells seen (events ++ log)) :
    Progress.Tells seen ⟨events, some a⟩ good := by
  refine ⟨by simp, ?_⟩
  intro b hb
  obtain rfl := Option.some.inj hb
  exact ⟨seen', hgood, h⟩

theorem Progress.Tells.andThen {x : Progress α} {f : α → Progress β}
    {good' : List ClientMessage → β → Prop} (h : x.Tells seen good)
    (hf : ∀ seen' a, good seen' a → (f a).Tells seen' good') : (x.andThen f).Tells seen good' := by
  obtain ⟨events, _ | a⟩ := x
  · exact tells_end (h.ended rfl)
  · obtain ⟨seen', hgood, hlog⟩ := h.goesOn a rfl
    have hnext := hf seen' a hgood
    rw [Progress.andThen_some]
    constructor
    · intro hnone
      exact hlog _ (hnext.ended hnone)
    · intro b hb
      obtain ⟨seen'', hgood', hlog'⟩ := hnext.goesOn b hb
      refine ⟨seen'', hgood', ?_⟩
      intro log htells
      rw [List.append_assoc]
      exact hlog _ (hlog' log htells)

/-- A whole run, whatever it would go on with. -/
theorem Progress.Tells.events {x : Progress α} (h : x.Tells seen good) : Rtsp.Tells seen x.events := by
  cases hnext : x.next with
  | none => exact h.ended hnext
  | some a =>
    obtain ⟨seen', -, hlog⟩ := h.goesOn a hnext
    have hall := hlog [] (.nil seen')
    rwa [List.append_nil] at hall

end Tells

namespace Connection

variable {conn : Connection} {seen : List ClientMessage}

structure Told (seen : List ClientMessage) (conn : Connection) : Prop where
  session : conn.session.Told seen
  idUnbroken : conn.session.IdUnbroken

theorem told_new : Connection.new.Told [] where
  session := ⟨rfl, by simp [Connection.new, Session.new]⟩
  idUnbroken := by simp [Session.IdUnbroken, Connection.new, Session.new]

theorem tells_calls {log : List ConnEvent} (h : Tells seen log) (req : Request) :
    Tells seen (conn.calls req ++ log) := by
  unfold calls
  split
  · exact .subscribing req h
  · exact h

theorem sessionIdOf_unbroken (counter : UInt64) : ∀ c ∈ (sessionIdOf counter).toList, c ∉ crlf := by
  unfold sessionIdOf
  rw [String.toList_append, List.forall_mem_append]
  refine ⟨by decide, ?_⟩
  intro c hc hcrlf
  refine not_mem_toString counter.toNat c hc ?_
  have hall : ∀ c ∈ crlf, c ∈ ['\r', '\n', ':'] := by decide
  exact hall c hcrlf

/-- A request is answered with a response that can be read, and only a PLAY starts the packets. -/
theorem Told.serve (h : conn.Told seen) (source : StreamSource) (counter : UInt64) {req : Request}
    (huri : ¬ crlf <:+: req.uri.toList) :
    (conn.serve source (sessionIdOf counter) req).Tells seen Connection.Told := by
  unfold Connection.serve
  cases conn.acquire source req with
  | error e =>
    exact Progress.tells_end (.took req (tells_calls (.closed (.nil seen)) req))
  | ok subscription =>
    have hid := sessionIdOf_unbroken counter
    have hclean : (conn.session.handle req (source.context (sessionIdOf counter) subscription)).2.1.Clean
        (req.cseq.getD 0) :=
      Session.handle_clean h.idUnbroken huri (crlf_unbroken fun hc => hid '\r' hc (by simp [crlf]))
    obtain ⟨htold, hstream⟩ := h.session.handle hclean
    have hafter : (conn.session.exchange req
        (source.context (sessionIdOf counter) subscription)).after.IdUnbroken := by
      refine Session.IdUnbroken.step ?_ (conn.session.exchange_handled req _) ?_
      · rw [Session.exchange_before]
        exact h.idUnbroken
      · rw [Session.exchange_ctx]
        exact hid
    simp only [Session.exchange_eq] at hafter ⊢
    generalize conn.session.handle req (source.context (sessionIdOf counter) subscription) = result at *
    obtain ⟨after, response, action⟩ := result
    simp only at *
    -- the events up to the answer
    have hanswered : ∀ log, Tells (seen ++ [response.message]) log →
        Tells seen (.took req :: conn.calls req ++ [.answered response] ++ log) := by
      intro log hlog
      rw [List.append_assoc]
      exact .took req (tells_calls (.answered hclean hlog) req)
    cases action with
    | none => exact Progress.tells_next ⟨htold, hafter⟩ hanswered
    | startStreaming channel =>
      refine Progress.tells_end (hanswered _ ?_)
      split
      · exact .streaming (hstream channel rfl)
      · exact .closed (.nil _)
    | stop => exact Progress.tells_end (hanswered _ (.closed (.nil _)))

theorem Told.serveAll (h : conn.Told seen) (source : StreamSource) (counter : UInt64)
    {reqs : List Request} (huri : ∀ req ∈ reqs, ¬ crlf <:+: req.uri.toList) :
    (conn.serveAll source (sessionIdOf counter) reqs).Tells seen Connection.Told := by
  induction reqs generalizing conn seen with
  | nil => exact Progress.tells_next h fun log hlog => hlog
  | cons req reqs ih =>
    have hfirst := h.serve source counter (huri req (by simp))
    exact hfirst.andThen fun seen' next hnext => ih hnext fun r hr => huri r (by simp [hr])

theorem tells_leave (r : Reading) (seen : List ClientMessage) (conn : Connection) :
    (r.leave conn).Tells seen fun _ _ => True := by
  unfold Reading.leave
  cases r.status with
  | reading => exact Progress.tells_next trivial fun log hlog => hlog
  | ended => exact Progress.tells_end (.closed (.nil seen))
  | failed e => exact Progress.tells_end (.closed (.nil seen))
  | panicked => exact Progress.tells_end (.closed (.nil seen))

end Connection

/-- Every request that is read has its URI in one line. -/
theorem uri_of_mem_drain {buf : List UInt8} {req : Request} (h : req ∈ (drain buf).requests) :
    ¬ crlf <:+: req.uri.toList := by
  induction buf using drain_induction with
  | took buf req' n hparse ih =>
    rw [drain_of_ok hparse] at h
    rcases List.mem_cons.mp h with rfl | hrest
    · exact uri_of_parseRequest hparse
    · exact ih hrest
  | waits buf hparse =>
    rw [drain_of_incomplete hparse] at h
    cases h
  | fails buf status hstatus hdrain =>
    have hnow := hdrain []
    rw [List.append_nil] at hnow
    rw [hnow] at h
    cases h

theorem handleConnection_tells (source : StreamSource) (counter : UInt64) (chunks : List (List UInt8)) :
    Tells [] (handleConnection source (sessionIdOf counter) chunks) := by
  unfold handleConnection
  rw [Connection.read_eq]
  have huri : ∀ req ∈ (readLoop [] chunks).requests, ¬ crlf <:+: req.uri.toList := by
    intro req hreq
    rw [(readLoop_received (drain_of_incomplete rfl) chunks).1] at hreq
    exact uri_of_mem_drain hreq
  have hserved := Connection.told_new.serveAll source counter huri
  exact (hserved.andThen fun seen conn _ => Connection.tells_leave _ seen conn).events

/-! ## What the client reads -/

theorem Tells.drain {seen : List ClientMessage} {log : List ConnEvent} (h : Tells seen log)
    {turns : List ForwardEvent} {bytes : List UInt8} (hbytes : written turns log = some bytes)
    (t : List UInt8) :
    client.drain (bytes ++ t) = (messages turns log ++ (client.drain t).1, (client.drain t).2) := by
  induction h generalizing bytes with
  | nil seen =>
    cases hbytes
    rfl
  | took req _ ih => exact ih hbytes
  | subscribing req _ ih => exact ih hbytes
  | closed _ ih => exact ih hbytes
  | @answered seen log r cseq hclean _ ih =>
    obtain ⟨more, hmore, rfl⟩ := Option.map_eq_some_iff.mp hbytes
    rw [List.append_assoc, hclean.writes.drain, ih hmore]
    rfl
  | @streaming seen channel hchannel =>
    simp only [written, Option.bind_eq_bind, Option.bind_eq_some_iff, Option.pure_def,
      Option.some.injEq] at hbytes
    obtain ⟨frames, hframes, _, rfl, rfl⟩ := hbytes
    rw [List.append_nil, drain_forwardRtp hframes t]
    simp [messages, responses, streamed]

/-- The packets come on the channel told last. -/
theorem Tells.channel {seen : List ClientMessage} {log : List ConnEvent} (h : Tells seen log) :
    ∀ channel ∈ streamed log,
      channelOf (seen ++ (responses log).map Response.message) = some channel := by
  induction h with
  | nil seen => simp [streamed]
  | took req _ ih => exact ih
  | subscribing req _ ih => exact ih
  | closed _ ih => exact ih
  | @answered seen log r cseq hclean _ ih =>
    intro channel hchannel
    have hmore := ih channel hchannel
    rwa [List.append_assoc] at hmore
  | @streaming seen channel hchannel =>
    intro c hc
    obtain rfl : c = channel := by simpa [streamed] using hc
    simpa [responses] using hchannel

section Written

variable {source : StreamSource} {counter : UInt64} {chunks : List (List UInt8)}
  {turns : List ForwardEvent} {bytes : List UInt8}

theorem drain_written
    (h : written turns (handleConnection source (sessionIdOf counter) chunks) = some bytes) :
    client.drain bytes =
      (messages turns (handleConnection source (sessionIdOf counter) chunks), []) := by
  have hall := (handleConnection_tells source counter chunks).drain h []
  rwa [List.append_nil, Codec.Reader.drain_of_none Codec.Reader.read_nil, List.append_nil] at hall

/-- From a part of the bytes a client reads a beginning of the messages. -/
theorem loop_written
    (h : written turns (handleConnection source (sessionIdOf counter) chunks) = some bytes)
    {cuts : List (List UInt8)} (hcuts : cuts.flatten <+: bytes) :
    (client.loop [] cuts).1 <+:
      messages turns (handleConnection source (sessionIdOf counter) chunks) := by
  have hpart := Codec.Reader.drain_prefix (r := client) hcuts
  rwa [drain_written h, ← List.nil_append cuts.flatten,
    ← Codec.Reader.loop_eq Codec.Reader.read_nil] at hpart

/-- From all of them it reads all messages. -/
theorem loop_all
    (h : written turns (handleConnection source (sessionIdOf counter) chunks) = some bytes)
    {cuts : List (List UInt8)} (hcuts : cuts.flatten = bytes) :
    client.loop [] cuts =
      (messages turns (handleConnection source (sessionIdOf counter) chunks), []) := by
  rw [Codec.Reader.loop_eq Codec.Reader.read_nil, List.nil_append, hcuts, drain_written h]

end Written

/-- However the bytes of a connection are cut, its client reads the responses in order and after them
the packets, each as it was forwarded and on the channel that the responses told last, and at any time
before it has read a beginning of them. -/
theorem client_follows (source : StreamSource) (counter : UInt64) (chunks : List (List UInt8))
    (turns : List ForwardEvent) {bytes : List UInt8}
    (h : written turns (handleConnection source (sessionIdOf counter) chunks) = some bytes)
    {cuts : List (List UInt8)} (hcuts : cuts.flatten <+: bytes) :
    let log := handleConnection source (sessionIdOf counter) chunks
    (client.loop [] cuts).1 <+: messages turns log ∧
      (cuts.flatten = bytes → client.loop [] cuts = (messages turns log, [])) ∧
      ∀ channel ∈ streamed log, channelOf ((responses log).map Response.message) = some channel :=
  ⟨loop_written h hcuts, loop_all h, (handleConnection_tells source counter chunks).channel⟩

namespace Sample

def setup : Request :=
  ⟨.setup, "rtsp://h/cam/0", [("cseq", "1"), ("transport", "RTP/AVP/TCP;interleaved=2-3")], []⟩

def play : Request := ⟨.play, "rtsp://h/cam", [("cseq", "2")], []⟩

theorem fits_setup : Fits setup setup.text := by
  have hwell : setup.WellFormed :=
    { uri := by decide
      names := by decide
      distinct := by decide
      values := by decide
      length := by decide
      names_crlf := by decide
      length_empty := by decide }
  exact ⟨hwell, hwell.renders_text, by decide⟩

theorem fits_play : Fits play play.text := by
  have hwell : play.WellFormed :=
    { uri := by decide
      names := by decide
      distinct := by decide
      values := by decide
      length := by decide
      names_crlf := by decide
      length_empty := by decide }
  exact ⟨hwell, hwell.renders_text, by decide⟩

/-- A SETUP and a PLAY that arrive one after the other. -/
theorem handleConnection_play (source : StreamSource) (sessionId : String) :
    handleConnection source sessionId [setup.text, play.text] =
      Connection.log source sessionId (⟨[setup, play], [], .reading⟩ : Reading).leave .new
        [setup, play] := by
  have hloop : readLoop [] [setup.text, play.text] = ⟨[setup, play], [], .reading⟩ := by
    refine readLoop_of_fits (.cons fits_setup (.cons fits_play .nil)) ?_ rfl ?_
    · decide
    · decide
  rw [handleConnection_eq, hloop]

end Sample

/-- A SETUP on channels 2 and 3, a PLAY and two packets, read in two parts. -/
theorem client_follows_play :
    let source : StreamSource := ⟨"Camera", "cam", .ok defaultH264⟩
    let log := handleConnection source (sessionIdOf 7) [Sample.setup.text, Sample.play.text]
    let p : RtpPacket := ⟨⟨2, false, false, false, 96, 65535, 90000, 7, [5], 0, []⟩, [0x24, 0]⟩
    let turns := [ForwardEvent.packet p, .lagged 2, .packet p, .closed]
    ∃ bytes, written turns log = some bytes ∧ streamed log = [2] ∧
      client.loop [] [bytes.take 100, bytes.drop 100] = (messages turns log, []) ∧
      channelOf ((responses log).map Response.message) = some 2 := by
  intro source log p turns
  have hlog : log = Connection.log source (sessionIdOf 7)
      (⟨[Sample.setup, Sample.play], [], .reading⟩ : Reading).leave .new [Sample.setup, Sample.play] :=
    Sample.handleConnection_play source (sessionIdOf 7)
  have hstreamed : streamed log = [2] := by
    rw [hlog]
    decide +kernel
  have hsome : (written turns log).isSome = true := by
    rw [hlog]
    decide +kernel
  obtain ⟨bytes, hbytes⟩ := Option.isSome_iff_exists.mp hsome
  have hcuts : [bytes.take 100, bytes.drop 100].flatten = bytes := by simp
  have hbegins : [bytes.take 100, bytes.drop 100].flatten <+: bytes := by
    rw [hcuts]
  obtain ⟨-, hread, hchannel⟩ := client_follows source 7 [Sample.setup.text, Sample.play.text] turns
    hbytes hbegins
  refine ⟨bytes, hbytes, hstreamed, hread hcuts, hchannel 2 ?_⟩
  show 2 ∈ streamed log
  rw [hstreamed]
  decide

end Buddy3dProxy.Rtsp
