import Buddy3dProxy.Rtsp.Rendering

/-!
# Reading requests

The read-and-parse loop of `handle_connection` in `rtsp/server.rs`: the requests it takes from the
bytes of a connection. What is done with a request does not touch the buffer.
-/

namespace Buddy3dProxy.Rtsp

/-- Where the loop stands after its last read. -/
inductive ReadStatus where
  /-- In the next read. -/
  | reading
  /-- At the end of the stream. -/
  | ended
  /-- After a parse failure. -/
  | failed (e : ParseError)
  | panicked
  deriving DecidableEq, Repr

structure Reading where
  requests : List Request
  buf : List UInt8
  status : ReadStatus
  deriving DecidableEq, Repr

/-- The inner loop: parse as many requests as the buffer can yield. -/
def drain (buf : List UInt8) : Reading :=
  match _h : parseRequest buf with
  | none => ⟨[], buf, .panicked⟩
  | some (.ok (req, consumed)) =>
    let rest := drain (buf.drop consumed)
    { rest with requests := req :: rest.requests }
  | some (.error .incomplete) => ⟨[], buf, .reading⟩
  | some (.error e) => ⟨[], buf, .failed e⟩
termination_by buf.length
decreasing_by
  have hconsumed := consumed_of_parseRequest _h
  simp only [List.length_drop]
  omega

/-- The outer loop on the chunks that are read one after the other; a read of no bytes is the end of
the stream. -/
def readLoop (buf : List UInt8) : List (List UInt8) → Reading
  | [] => ⟨[], buf, .reading⟩
  | chunk :: chunks =>
    if chunk = [] then ⟨[], buf, .ended⟩
    else
      let drained := drain (buf ++ chunk)
      match drained.status with
      | .reading =>
        let rest := readLoop drained.buf chunks
        { rest with requests := drained.requests ++ rest.requests }
      | _ => drained

theorem drain_of_none {buf : List UInt8} (h : parseRequest buf = none) :
    drain buf = ⟨[], buf, .panicked⟩ := by
  rw [drain]
  split <;> simp_all

theorem drain_of_ok {buf : List UInt8} {req : Request} {n : Nat}
    (h : parseRequest buf = some (.ok (req, n))) :
    drain buf = { drain (buf.drop n) with requests := req :: (drain (buf.drop n)).requests } := by
  rw [drain]
  split <;> simp_all

theorem drain_of_incomplete {buf : List UInt8} (h : parseRequest buf = some (.error .incomplete)) :
    drain buf = ⟨[], buf, .reading⟩ := by
  rw [drain]
  split <;> simp_all

theorem drain_of_error {buf : List UInt8} {e : ParseError}
    (h : parseRequest buf = some (.error e)) (he : e ≠ .incomplete) :
    drain buf = ⟨[], buf, .failed e⟩ := by
  rw [drain]
  split <;> simp_all

/-! ## Independence of the chunks -/

/-- A rendering of a well-formed request that fits into a buffer. -/
structure Fits (req : Request) (text : List UInt8) : Prop where
  wellFormed : req.WellFormed
  renders : Renders req text
  size : text.length < 18446744073709551616

variable {reqs : List Request} {texts : List (List UInt8)} {buf : List UInt8}

/-- The inner loop takes the requests that are there as a whole, and leaves the beginning of the next. -/
theorem drain_of_fits {rest : List UInt8} (h : List.Forall₂ Fits reqs texts)
    (hbuf : buf ++ rest = texts.flatten) :
    ∃ done todo texts' left, reqs = done ++ todo ∧ List.Forall₂ Fits todo texts' ∧
      drain buf = ⟨done, left, .reading⟩ ∧ left ++ rest = texts'.flatten ∧
      ∀ t ∈ texts'.head?, left.length < t.length := by
  induction h generalizing buf with
  | nil =>
    obtain ⟨rfl, rfl⟩ : buf = [] ∧ rest = [] := by simpa using hbuf
    have hempty : parseRequest [] = some (.error .incomplete) := rfl
    exact ⟨[], [], [], [], rfl, .nil, drain_of_incomplete hempty, rfl, by simp⟩
  | @cons req text reqs texts hfit hfits ih =>
    rw [List.flatten_cons] at hbuf
    by_cases hwhole : text.length ≤ buf.length
    · -- the request is there, and what follows it is drained
      obtain ⟨buf', rfl⟩ : text <+: buf :=
        List.prefix_of_prefix_length_le ⟨texts.flatten, rfl⟩ ⟨rest, hbuf⟩ hwhole
      have hbuf' : buf' ++ rest = texts.flatten := by
        rw [List.append_assoc] at hbuf
        exact List.append_cancel_left hbuf
      have hparse := parseRequest_of_renders hfit.wellFormed hfit.renders hfit.size buf'
      obtain ⟨done, todo, texts', left, rfl, htodo, hdrain, hleft, hnext⟩ := ih hbuf'
      refine ⟨req :: done, todo, texts', left, rfl, htodo, ?_, hleft, hnext⟩
      rw [drain_of_ok hparse, List.drop_left, hdrain]
    · -- part of it is still to come
      obtain ⟨q, rfl⟩ : buf <+: text :=
        List.prefix_of_prefix_length_le ⟨rest, hbuf⟩ ⟨texts.flatten, rfl⟩ (by omega)
      have hq : q ≠ [] := by
        rintro rfl
        simp at hwhole
      have hparse := parseRequest_of_append hfit.wellFormed hfit.renders hq hfit.size
      refine ⟨[], _, _, buf, rfl, .cons hfit hfits, drain_of_incomplete hparse, hbuf, ?_⟩
      rintro t ht
      obtain rfl : buf ++ q = t := by simpa using ht
      omega

/-- The loop with the beginning of the next request in its buffer. -/
theorem readLoop_of_fits {chunks : List (List UInt8)} (h : List.Forall₂ Fits reqs texts)
    (hne : ∀ chunk ∈ chunks, chunk ≠ []) (hbuf : buf ++ chunks.flatten = texts.flatten)
    (hnext : ∀ t ∈ texts.head?, buf.length < t.length) :
    readLoop buf chunks = ⟨reqs, [], .reading⟩ := by
  induction chunks generalizing buf reqs texts with
  | nil =>
    cases h with
    | nil =>
      obtain rfl : buf = [] := by simpa using hbuf
      rfl
    | @cons req text reqs texts hfit hfits =>
      have hlt := hnext text (by simp)
      have hlen := congrArg List.length hbuf
      simp only [List.flatten_nil, List.append_nil, List.flatten_cons, List.length_append] at hlen
      omega
  | cons chunk chunks ih =>
    rw [List.flatten_cons, ← List.append_assoc] at hbuf
    obtain ⟨done, todo, texts', left, rfl, htodo, hdrain, hleft, hnext'⟩ := drain_of_fits h hbuf
    have hrest := ih htodo (fun c hc => hne c (by simp [hc])) hleft hnext'
    rw [readLoop, if_neg (hne chunk (by simp))]
    simp only [hdrain, hrest]

theorem Fits.length_pos {req : Request} {text : List UInt8} (h : Fits req text) : 0 < text.length := by
  obtain ⟨head, rfl, -, -⟩ := head_of_renders h.wellFormed h.renders
  simp only [List.length_append, List.length_cons]
  omega

theorem forall₂_fits (htexts : List.Forall₂ Renders reqs texts) (hreqs : ∀ req ∈ reqs, req.WellFormed)
    (hsize : ∀ t ∈ texts, t.length < 18446744073709551616) : List.Forall₂ Fits reqs texts := by
  induction htexts with
  | nil => exact .nil
  | @cons req text reqs texts hr _ ih =>
    have hfit : Fits req text := ⟨hreqs req (by simp), hr, hsize text (by simp)⟩
    exact .cons hfit (ih (fun r h => hreqs r (by simp [h])) fun t h => hsize t (by simp [h]))

/-- From the renderings of well-formed requests one after the other, cut into any chunks, exactly these
requests are read, in order, and nothing is left over. -/
theorem readLoop_renders {chunks : List (List UInt8)} (hreqs : ∀ req ∈ reqs, req.WellFormed)
    (htexts : List.Forall₂ Renders reqs texts) (hsize : ∀ t ∈ texts, t.length < 18446744073709551616)
    (hne : ∀ chunk ∈ chunks, chunk ≠ []) (hchunks : chunks.flatten = texts.flatten) :
    readLoop [] chunks = ⟨reqs, [], .reading⟩ := by
  have hfits := forall₂_fits htexts hreqs hsize
  refine readLoop_of_fits hfits hne hchunks fun t ht => ?_
  cases hfits with
  | nil => simp at ht
  | cons hfit _ =>
    obtain rfl := Option.some.inj ht
    exact hfit.length_pos

namespace Sample

def describe : Request := ⟨.describe, "rtsp://h/x", [("cseq", "2"), ("accept", "application/sdp")], []⟩

def getParameter : Request := ⟨.getParameter, "r", [("content-length", "3")], [97, 98, 99]⟩

def stream : List UInt8 := describe.text ++ getParameter.text

theorem wellFormed_describe : describe.WellFormed where
  uri := by decide
  names := by decide
  distinct := by decide
  values := by decide
  length := by decide
  names_crlf := by decide
  length_empty := by decide

theorem wellFormed_getParameter : getParameter.WellFormed where
  uri := by decide
  names := by decide
  distinct := by decide
  values := by decide
  length := by decide
  names_crlf := by decide
  length_empty := by decide

end Sample

/-- Two requests, the second with a body, in three chunks of which the last two cut it. -/
theorem readLoop_renders_three :
    readLoop [] [Sample.stream.take 40, (Sample.stream.drop 40).take 74, Sample.stream.drop 114] =
      ⟨[Sample.describe, Sample.getParameter], [], .reading⟩ := by
  have htexts : List.Forall₂ Renders [Sample.describe, Sample.getParameter]
      [Sample.describe.text, Sample.getParameter.text] :=
    .cons Sample.wellFormed_describe.renders_text
      (.cons Sample.wellFormed_getParameter.renders_text .nil)
  refine readLoop_renders ?_ htexts ?_ ?_ ?_
  · simp [Sample.wellFormed_describe, Sample.wellFormed_getParameter]
  · decide
  · decide
  · decide

namespace Sample

/-- It states a length and has no body. -/
def misstated : Request := ⟨.play, "r", [("content-length", "5")], []⟩

/-- The name of its header has a line break. -/
def broken : Request := ⟨.options, "r", [("a\r\nb", "v")], []⟩

theorem plain_misstated : misstated.Plain where
  uri := by decide
  names := by decide
  distinct := by decide
  values := by decide
  length := by decide

theorem plain_broken : broken.Plain where
  uri := by decide
  names := by decide
  distinct := by decide
  values := by decide
  length := by decide

theorem readLoop_misstated : readLoop [] [misstated.text] = ⟨[], misstated.text, .reading⟩ := by
  have hincomplete : parseRequest misstated.text = some (.error .incomplete) := by decide +kernel
  rw [readLoop, if_neg (by decide), List.nil_append, drain_of_incomplete hincomplete]
  rfl

theorem readLoop_broken :
    readLoop [] [broken.text] = ⟨[], broken.text, .failed (.badHeaderLine "a")⟩ := by
  have hbad : parseRequest broken.text = some (.error (.badHeaderLine "a")) := by decide +kernel
  rw [readLoop, if_neg (by decide), List.nil_append, drain_of_error hbad (by decide)]

end Sample

/-- The length of an empty body must be given as 0, and no name may break its line. -/
theorem not_readLoop_of_plain :
    (¬ ∀ req : Request, req.Plain → (∀ h ∈ req.headers, ¬ crlf <:+: h.1.toList) →
      readLoop [] [req.text] = ⟨[req], [], .reading⟩) ∧
    ¬ ∀ req : Request, req.Plain → (req.body = [] → contentLength req.headers = .ok 0) →
      readLoop [] [req.text] = ⟨[req], [], .reading⟩ := by
  constructor
  · intro hall
    have hread := hall Sample.misstated Sample.plain_misstated (by decide)
    rw [Sample.readLoop_misstated] at hread
    cases congrArg Reading.requests hread
  · intro hall
    have hread := hall Sample.broken Sample.plain_broken (by decide)
    rw [Sample.readLoop_broken] at hread
    cases congrArg Reading.requests hread

end Buddy3dProxy.Rtsp
