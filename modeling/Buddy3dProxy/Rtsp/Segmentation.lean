import Buddy3dProxy.Rtsp.Connection

/-!
# Segmentation

TCP may cut the bytes of a client anywhere. What `handle_connection` in `rtsp/server.rs` does depends on
the bytes alone, well formed or not: on the requests it finds, on a failure among them and on the end of
the stream.
-/

namespace Buddy3dProxy.Rtsp

/-- The bytes that come in before the end of the stream, and whether it has ended. -/
def received : List (List UInt8) → List UInt8 × Bool
  | [] => ([], false)
  | chunk :: chunks =>
    if chunk = [] then ([], true) else (chunk ++ (received chunks).1, (received chunks).2)

/-! ## One request -/

/-- A result, other than that bytes are missing, is the same when more of the stream is there. -/
theorem parseRequest_append {buf : List UInt8} (h : parseRequest buf ≠ some (.error .incomplete))
    (t : List UInt8) : parseRequest (buf ++ t) = parseRequest buf := by
  unfold parseRequest at h ⊢
  cases hfind : Rust.find [13, 10, 13, 10] buf with
  | none =>
    rw [hfind] at h
    exact absurd rfl h
  | some idx =>
    have hidx : idx + 4 ≤ buf.length := Rust.find_length_le hfind
    rw [hfind] at h
    rw [Rust.find_append hfind]
    simp only at h ⊢
    rw [List.take_append_of_le_length (by omega)]
    cases hhead : parseHead (buf.take idx) with
    | error e => rfl
    | ok head =>
      rw [hhead] at h
      simp only at h ⊢
      generalize (idx + 4 + head.bodyLen) % 18446744073709551616 = stop at h ⊢
      have hstop : stop ≤ buf.length := by
        by_contra hmissing
        rw [if_pos (by omega)] at h
        exact h rfl
      have hlong : ¬ buf.length < stop := by omega
      have hlonger : ¬ (buf ++ t).length < stop := by
        rw [List.length_append]
        omega
      rw [if_neg hlong, if_neg hlonger, List.take_append_of_le_length hstop]

/-! ## The inner loop -/

/-- The cases of the inner loop, as an induction. -/
theorem drain_induction {P : List UInt8 → Prop}
    (took : ∀ buf req n, parseRequest buf = some (.ok (req, n)) → P (buf.drop n) → P buf)
    (waits : ∀ buf, parseRequest buf = some (.error .incomplete) → P buf)
    (fails : ∀ buf status, status ≠ .reading →
      (∀ t, drain (buf ++ t) = ⟨[], buf ++ t, status⟩) → P buf) (buf : List UInt8) : P buf := by
  induction hn : buf.length using Nat.strongRecOn generalizing buf with
  | ind n ih =>
    cases hparse : parseRequest buf with
    | none =>
      refine fails buf .panicked (by simp) ?_
      intro t
      exact drain_of_none ((parseRequest_append (by simp [hparse]) t).trans hparse)
    | some result =>
      cases result with
      | ok taken =>
        obtain ⟨req, consumed⟩ := taken
        have hconsumed := consumed_of_parseRequest hparse
        have hshort : (buf.drop consumed).length < n := by
          rw [List.length_drop]
          omega
        exact took buf req consumed hparse (ih _ hshort _ rfl)
      | error e =>
        by_cases he : e = .incomplete
        · rw [he] at hparse
          exact waits buf hparse
        · refine fails buf (.failed e) (by simp) ?_
          intro t
          exact drain_of_error ((parseRequest_append (by simp [hparse, he]) t).trans hparse) he

/-- What more bytes change in what the inner loop finds. -/
structure Continues (before : Reading) (t : List UInt8) (after : Reading) : Prop where
  /-- The loop goes on where it stood. -/
  reading : before.status = .reading →
    after = { drain (before.buf ++ t) with
      requests := before.requests ++ (drain (before.buf ++ t)).requests }
  /-- After a failure they are not looked at. -/
  stopped : before.status ≠ .reading →
    after.requests = before.requests ∧ after.status = before.status

theorem drain_append (buf t : List UInt8) : Continues (drain buf) t (drain (buf ++ t)) := by
  induction buf using drain_induction with
  | took buf req n hparse ih =>
    have hn := consumed_of_parseRequest hparse
    have hmore : parseRequest (buf ++ t) = some (.ok (req, n)) := by
      rw [parseRequest_append (by simp [hparse]), hparse]
    rw [drain_of_ok hparse, drain_of_ok hmore, List.drop_append_of_le_length hn.2]
    constructor
    · intro hreading
      rw [ih.reading hreading]
      rfl
    · intro hstopped
      obtain ⟨hrequests, hstatus⟩ := ih.stopped hstopped
      exact ⟨congrArg (req :: ·) hrequests, hstatus⟩
  | waits buf hparse =>
    rw [drain_of_incomplete hparse]
    exact ⟨fun _ => rfl, fun h => absurd rfl h⟩
  | fails buf status hstatus hdrain =>
    have hnow := hdrain []
    rw [List.append_nil] at hnow
    rw [hnow, hdrain t]
    exact ⟨fun h => absurd h hstatus, fun _ => ⟨rfl, rfl⟩⟩

/-- What the loop keeps in its buffer waits for more. -/
theorem drain_left {buf : List UInt8} (h : (drain buf).status = .reading) :
    drain (drain buf).buf = ⟨[], (drain buf).buf, .reading⟩ := by
  induction buf using drain_induction with
  | took buf req n hparse ih =>
    rw [drain_of_ok hparse] at h ⊢
    exact ih h
  | waits buf hparse =>
    rw [drain_of_incomplete hparse]
    exact drain_of_incomplete hparse
  | fails buf status hstatus hdrain =>
    have hnow := hdrain []
    rw [List.append_nil] at hnow
    rw [hnow] at h
    exact absurd h hstatus

/-! ## The outer loop -/

/-- Where the loop stands when nothing more comes. -/
def ReadStatus.close (status : ReadStatus) (eof : Bool) : ReadStatus :=
  if status = .reading ∧ eof then .ended else status

theorem ReadStatus.close_of_ne {status : ReadStatus} (h : status ≠ .reading) (eof : Bool) :
    status.close eof = status := if_neg fun hboth => h hboth.1

/-- The loop finds what is in all bytes together. -/
theorem readLoop_received {buf : List UInt8} (h : drain buf = ⟨[], buf, .reading⟩)
    (chunks : List (List UInt8)) :
    (readLoop buf chunks).requests = (drain (buf ++ (received chunks).1)).requests ∧
      (readLoop buf chunks).status =
        (drain (buf ++ (received chunks).1)).status.close (received chunks).2 := by
  induction chunks generalizing buf with
  | nil =>
    rw [readLoop, received, List.append_nil, h]
    exact ⟨rfl, rfl⟩
  | cons chunk chunks ih =>
    by_cases hend : chunk = []
    · rw [readLoop, received, if_pos hend, if_pos hend, List.append_nil, h]
      exact ⟨rfl, rfl⟩
    · rw [readLoop, received, if_neg hend, if_neg hend, ← List.append_assoc]
      have hmore := drain_append (buf ++ chunk) (received chunks).1
      by_cases hreading : (drain (buf ++ chunk)).status = .reading
      · have hrest := ih (drain_left hreading)
        rw [hmore.reading hreading]
        simp only [hreading]
        exact ⟨congrArg _ hrest.1, hrest.2⟩
      · obtain ⟨hrequests, hstatus⟩ := hmore.stopped hreading
        rw [hrequests, hstatus, ReadStatus.close_of_ne hreading]
        generalize drain (buf ++ chunk) = drained at hreading
        obtain ⟨reqs, left, status⟩ := drained
        cases status with
        | reading => exact absurd rfl hreading
        | ended => exact ⟨rfl, rfl⟩
        | failed e => exact ⟨rfl, rfl⟩
        | panicked => exact ⟨rfl, rfl⟩

/-! ## The connection -/

/-- What is left in the buffer leaves no trace. -/
theorem Connection.log_leave (source : StreamSource) (sessionId : String) (conn : Connection)
    (reqs : List Request) {r r' : Reading} (h : r.status = r'.status) :
    log source sessionId r.leave conn reqs = log source sessionId r'.leave conn reqs := by
  have hleave : ∀ conn : Connection, (r.leave conn).events = (r'.leave conn).events := by
    intro conn
    unfold Reading.leave
    rw [h]
    cases r'.status <;> rfl
  unfold log
  obtain ⟨events, _ | conn'⟩ := conn.serveAll source sessionId reqs
  · rfl
  · exact congrArg (events ++ ·) (hleave conn')

theorem handleConnection_of_received (source : StreamSource) (sessionId : String)
    {chunks chunks' : List (List UInt8)} (h : received chunks = received chunks') :
    handleConnection source sessionId chunks = handleConnection source sessionId chunks' := by
  have hempty : drain [] = ⟨[], [], .reading⟩ := drain_of_incomplete rfl
  obtain ⟨hrequests, hstatus⟩ := readLoop_received hempty chunks
  obtain ⟨hrequests', hstatus'⟩ := readLoop_received hempty chunks'
  rw [h] at hrequests hstatus
  rw [handleConnection_eq, handleConnection_eq, hrequests, hrequests']
  exact Connection.log_leave source sessionId .new _ (hstatus.trans hstatus'.symm)

theorem Connection.read_append (source : StreamSource) (sessionId : String) (conn : Connection)
    (buf : List UInt8) (chunks more : List (List UInt8)) :
    conn.read source sessionId buf (chunks ++ more) =
      (conn.read source sessionId buf chunks).andThen fun x =>
        x.1.read source sessionId x.2 more := by
  induction chunks generalizing conn buf with
  | nil => rfl
  | cons chunk chunks ih =>
    rw [List.cons_append, read, read]
    by_cases hend : chunk = []
    · rw [if_pos hend, if_pos hend]
      rfl
    · rw [if_neg hend, if_neg hend, Progress.andThen_assoc]
      simp only [ih]

theorem Progress.events_andThen {α β : Type} (x : Progress α) (f : α → Progress β) :
    x.events <+: (x.andThen f).events := by
  obtain ⟨events, _ | a⟩ := x
  · exact List.prefix_rfl
  · exact List.prefix_append _ _

theorem handleConnection_append (source : StreamSource) (sessionId : String)
    (chunks more : List (List UInt8)) :
    handleConnection source sessionId chunks <+:
      handleConnection source sessionId (chunks ++ more) := by
  unfold handleConnection
  rw [Connection.read_append]
  exact Progress.events_andThen _ _

/-- Chunks that come in after others, of which none is the end of the stream. -/
theorem received_append {chunks : List (List UInt8)} (h : (received chunks).2 = false)
    (more : List (List UInt8)) :
    received (chunks ++ more) = ((received chunks).1 ++ (received more).1, (received more).2) := by
  induction chunks with
  | nil => rfl
  | cons chunk chunks ih =>
    rw [received] at h
    rw [List.cons_append, received, received]
    by_cases hend : chunk = []
    · rw [if_pos hend] at h
      cases h
    · rw [if_neg hend] at h
      rw [if_neg hend, if_neg hend, ih h, List.append_assoc]

/-- Bytes, and the end of the stream after them if it has come, as they can be read. -/
theorem exists_received (bytes : List UInt8) (eof : Bool) : ∃ chunks, received chunks = (bytes, eof) := by
  by_cases hbytes : bytes = []
  · cases eof with
    | false => exact ⟨[], by rw [hbytes, received]⟩
    | true => exact ⟨[[]], by rw [hbytes, received, if_pos rfl]⟩
  · cases eof with
    | false => exact ⟨[bytes], by rw [received, if_neg hbytes, received, List.append_nil]⟩
    | true =>
      refine ⟨[bytes, []], ?_⟩
      rw [received, if_neg hbytes, received, if_pos rfl, List.append_nil]

/-- A connection does the same however its bytes are cut into reads, and what it has done when a part of
them is there is the beginning of what it does in the end. -/
theorem handleConnection_received (source : StreamSource) (sessionId : String)
    (chunks chunks' : List (List UInt8)) :
    (received chunks = received chunks' →
      handleConnection source sessionId chunks = handleConnection source sessionId chunks') ∧
    ((received chunks).2 = false → (received chunks).1 <+: (received chunks').1 →
      handleConnection source sessionId chunks <+: handleConnection source sessionId chunks') := by
  refine ⟨handleConnection_of_received source sessionId, ?_⟩
  rintro hopen ⟨rest, hrest⟩
  obtain ⟨more, hmore⟩ := exists_received rest (received chunks').2
  have hsame : received (chunks ++ more) = received chunks' := by
    rw [received_append hopen, hmore]
    exact Prod.ext hrest rfl
  rw [← handleConnection_of_received source sessionId hsame]
  exact handleConnection_append source sessionId chunks more

/-- A request and a head without a colon after it, in one read, in two, and with the second still to
come. -/
theorem handleConnection_received_cut :
    let source : StreamSource := ⟨"Camera", "x", .ok defaultH264⟩
    let bytes := "OPTIONS * RTSP/1.0\r\nCSeq: 1\r\n\r\nPLAY * 1\r\nx\r\n\r\n".toUTF8.toList
    let cut := [bytes.take 25, bytes.drop 25, []]
    handleConnection source "BUDDY3D-0" cut = handleConnection source "BUDDY3D-0" [bytes, []] ∧
      handleConnection source "BUDDY3D-0" [bytes.take 25] <+: handleConnection source "BUDDY3D-0" cut := by
  intro source bytes cut
  have hsame : received cut = received [bytes, []] := by decide +kernel
  have hopen : (received [bytes.take 25]).2 = false := by decide +kernel
  have hbegins : (received [bytes.take 25]).1 <+: (received cut).1 := by decide +kernel
  exact ⟨(handleConnection_received source "BUDDY3D-0" cut [bytes, []]).1 hsame,
    (handleConnection_received source "BUDDY3D-0" [bytes.take 25] cut).2 hopen hbegins⟩

end Buddy3dProxy.Rtsp
