import WeatherRadar.Proofs.Compression.Streams
import WeatherRadar.Proofs.Level3.Framing
/-!
# Compressed products expanded in rounds

A compressed product is a row of zlib streams, which a decompressor expands round by round.  The
rounds come to an end on every input, and what they find does not depend on how the decompressor
divides its work or on how much room it is given (`inflate_in_rounds`).
-/

namespace WeatherRadar.Level3

/-- The contents of the zlib streams at the start of some bytes, expanded in rounds. -/
def inflateAllInRounds (inflater : Zlib.Inflater) (allocator : Zlib.Allocator)
    (bytes : List UInt8) : Part (Except Error (List UInt8)) :=
  (Zlib.inflateInRounds inflater allocator bytes).map (·.mapError streamError)

section Streams

variable {codec : Codec} {streams : List (List UInt8 × List UInt8)}

theorem isStreamOf_of_ok (hsequential : codec.inflateStream.IsSequential)
    {stream contents : List UInt8} (hfirst : stream.head? = some Zlib.marker)
    (h : codec.inflateStream stream = .ok (contents, [])) : IsStreamOf codec stream contents where
  first := hfirst
  inflates := hsequential.reads h

/-- A stream without its last bytes is neither read nor rejected. -/
theorem truncated_of_front (hsequential : codec.inflateStream.IsSequential)
    {front back contents : List UInt8} (h : IsStreamOf codec (front ++ back) contents)
    (hback : back ≠ []) : codec.inflateStream front = .error .truncated := by
  have hwhole := h.inflates []
  rw [List.append_nil] at hwhole
  cases hfront : codec.inflateStream front with
  | ok found =>
      obtain ⟨contents', rest⟩ := found
      have hmore := hsequential.reads hfront back
      rw [hwhole] at hmore
      have hrest : [] = rest ++ back := (Prod.mk.inj (Except.ok.inj hmore)).2
      exact absurd (List.append_eq_nil_iff.1 hrest.symm).2 hback
  | error fault =>
      cases fault with
      | truncated => rfl
      | corrupt =>
          have hmore := hsequential.rejects hfront back
          rw [hwhole] at hmore
          cases hmore

theorem inflateAll_of_head?_ne {data : List UInt8} (h : data.head? ≠ some Zlib.marker) :
    inflateAll codec data = .error (.decompression .noStream) := by
  rw [inflateAll, Zlib.inflateWith, if_neg (by rwa [beq_iff_eq])]
  rfl

theorem inflateAll_streams_append (h : ∀ stream ∈ streams, IsStreamOf codec stream.1 stream.2)
    {rest : List UInt8} (hfirst : streams ≠ [] ∨ rest.head? = some Zlib.marker) :
    inflateAll codec (streams.flatMap (·.1) ++ rest) =
      ((Zlib.contentsWith codec.inflateStream rest).map
        (streams.flatMap (·.2) ++ ·)).mapError streamError := by
  have hmarker : ((streams.flatMap (·.1) ++ rest).head? == some Zlib.marker) = true := by
    rw [beq_iff_eq, List.head?_append]
    by_cases hnil : streams = []
    · rw [hnil]
      exact hfirst.resolve_left (not_not_intro hnil)
    · have hstreams := isStream_streams hnil h
      rw [isStream, beq_iff_eq] at hstreams
      rw [hstreams]
      rfl
  rw [inflateAll, Zlib.inflateWith, if_pos hmarker, contentsWith_streams h]

theorem inflateAll_of_error (h : ∀ stream ∈ streams, IsStreamOf codec stream.1 stream.2)
    {rest : List UInt8} {fault : Deflate.Fault} (hfirst : rest.head? = some Zlib.marker)
    (hrest : codec.inflateStream rest = .error fault) :
    inflateAll codec (streams.flatMap (·.1) ++ rest) = .error (streamError (.stream fault)) := by
  rw [inflateAll_streams_append h (.inr hfirst), Zlib.contentsWith_of_error hfirst hrest]
  rfl

end Streams

/-- How streams in a row are expanded in rounds. -/
structure InflatesInRounds (codec : Codec) (inflater : Zlib.Inflater)
    (allocator : Zlib.Allocator) : Prop where
  /-- A round that neither ends its stream nor fails takes bytes or makes some. -/
  progress : ∀ {data session next}, Zlib.turn inflater allocator data session = .goesOn next →
    session.taken < next.taken ∨ session.buffer.bytes.length < next.buffer.bytes.length
  /-- There is a last round on every input. -/
  finishes : ∀ data, inflateAllInRounds inflater allocator data = Part.some (inflateAll codec data)
  /-- Bytes behind the last stream are ignored unless they begin like another. -/
  expands : ∀ {streams : List (List UInt8 × List UInt8)} {tail}, streams ≠ [] →
    (∀ stream ∈ streams, IsStreamOf codec stream.1 stream.2) →
    tail.head? ≠ some Zlib.marker →
    inflateAllInRounds inflater allocator (streams.flatMap (·.1) ++ tail) =
      Part.some (.ok (streams.flatMap (·.2)))
  /-- The last stream may not be cut. -/
  refusesCut : ∀ {streams : List (List UInt8 × List UInt8)} {front back contents},
    (∀ stream ∈ streams, IsStreamOf codec stream.1 stream.2) →
    IsStreamOf codec (front ++ back) contents → front ≠ [] → back ≠ [] →
    inflateAllInRounds inflater allocator (streams.flatMap (·.1) ++ front) =
      Part.some (.error (.decompression .streamEnded))
  /-- No stream may be unsound, whatever follows it. -/
  refusesUnsound : ∀ {streams : List (List UInt8 × List UInt8)} {unsound rest},
    (∀ stream ∈ streams, IsStreamOf codec stream.1 stream.2) →
    unsound.head? = some Zlib.marker → codec.inflateStream unsound = .error .corrupt →
    inflateAllInRounds inflater allocator (streams.flatMap (·.1) ++ (unsound ++ rest)) =
      Part.some (.error (.decompression .corruptStream))
  refusesOthers : ∀ {data}, data.head? ≠ some Zlib.marker →
    inflateAllInRounds inflater allocator data = Part.some (.error (.decompression .noStream))

/-- Any decompressor that works in rounds as a sequential reader does at once expands streams in a
row, whatever memory its buffer gets. -/
theorem inflate_in_rounds {codec : Codec} {inflater : Zlib.Inflater}
    (hreads : inflater.Reads codec.inflateStream)
    (hsequential : codec.inflateStream.IsSequential) (allocator : Zlib.Allocator) :
    InflatesInRounds codec inflater allocator := by
  have hfinishes : ∀ data,
      inflateAllInRounds inflater allocator data = Part.some (inflateAll codec data) := by
    intro data
    rw [inflateAllInRounds, Zlib.inflateInRounds_eq allocator hreads hsequential, Part.map_some]
    rfl
  constructor
  · exact Zlib.turn_progress
  · exact hfinishes
  · intro streams tail hne hstreams htail
    rw [hfinishes, inflateAll_streams_append hstreams (.inl hne), Zlib.contentsWith_of_ne htail]
    exact congrArg (Part.some ∘ Except.ok) (List.append_nil _)
  · intro streams front back contents hstreams hstream hfront hback
    have hfirst : front.head? = some Zlib.marker := by
      cases front with
      | nil => exact absurd rfl hfront
      | cons byte front => exact hstream.first
    rw [hfinishes, inflateAll_of_error hstreams hfirst
      (truncated_of_front hsequential hstream hback)]
    rfl
  · intro streams unsound rest hstreams hmarker hunsound
    have hfirst : (unsound ++ rest).head? = some Zlib.marker := by
      rw [List.head?_append, hmarker]
      rfl
    rw [hfinishes, inflateAll_of_error hstreams hfirst (hsequential.rejects hunsound rest)]
    rfl
  · intro data hdata
    rw [hfinishes, inflateAll_of_head?_ne hdata]

/-- Two streams with other bytes behind them, with the last byte missing and with bytes between them
that no stream has. -/
theorem inflate_in_rounds_two_streams :
    let inflater := Zlib.Inflater.ofReader Codec.standard.inflateStream
    let first : List UInt8 := [0x78, 0x9C, 0x4B, 0xCB, 0x2C, 0x2A, 0x2E, 0x51, 0x28, 0x2E, 0x29,
      0x4A, 0x4D, 0xCC, 0xD5, 0x51, 0x00, 0x00, 0x29, 0x94, 0x05, 0x21]
    let front : List UInt8 := [0x78, 0x9C, 0x2B, 0x4E, 0x4D, 0xCE, 0xCF, 0x4B, 0x51, 0x28, 0x2E,
      0x29, 0x4A, 0x4D, 0xCC, 0x05, 0x00, 0x24, 0x31, 0x05]
    let second := front ++ [0x29]
    let unsound : List UInt8 := [0x78, 0x9C, 0xFF, 0xFF]
    inflater.Reads Codec.standard.inflateStream ∧ Codec.standard.inflateStream.IsSequential ∧
      inflateAllInRounds inflater .doubling (first ++ (second ++ [0x00, 0x78])) =
        Part.some (.ok "first stream, second stream".toUTF8.data.toList) ∧
      inflateAllInRounds inflater .doubling (first ++ front) =
        Part.some (.error (.decompression .streamEnded)) ∧
      inflateAllInRounds inflater .doubling (first ++ (unsound ++ second)) =
        Part.some (.error (.decompression .corruptStream)) ∧
      inflateAllInRounds inflater .doubling (0x00 :: first) =
        Part.some (.error (.decompression .noStream)) := by
  intro inflater first front second unsound
  have hsequential : Codec.standard.inflateStream.IsSequential := Zlib.singleStream_isSequential
  have hreads : inflater.Reads Codec.standard.inflateStream :=
    Zlib.Inflater.ofReader_reads hsequential
  have hinflates := inflate_in_rounds hreads hsequential .doubling
  have hfirst : IsStreamOf .standard first "first stream, ".toUTF8.data.toList :=
    isStreamOf_of_ok hsequential rfl (by decide +kernel)
  have hsecond : IsStreamOf .standard second "second stream".toUTF8.data.toList :=
    isStreamOf_of_ok hsequential rfl (by decide +kernel)
  have hone : ∀ stream ∈ [(first, "first stream, ".toUTF8.data.toList)],
      IsStreamOf .standard stream.1 stream.2 :=
    List.forall_mem_singleton.2 hfirst
  have htwo : ∀ stream ∈ [(first, "first stream, ".toUTF8.data.toList),
      (second, "second stream".toUTF8.data.toList)], IsStreamOf .standard stream.1 stream.2 :=
    List.forall_mem_cons.2 ⟨hfirst, List.forall_mem_singleton.2 hsecond⟩
  refine ⟨hreads, hsequential, ?_, ?_, ?_, ?_⟩
  · have hexpands := hinflates.expands (List.cons_ne_nil _ _) htwo
      (show [0x00, 0x78].head? ≠ some Zlib.marker by decide)
    exact hexpands.trans (congrArg (Part.some ∘ Except.ok) (by decide +kernel))
  · exact hinflates.refusesCut hone hsecond (List.cons_ne_nil _ _) (List.cons_ne_nil _ _)
  · exact hinflates.refusesUnsound hone rfl (by decide +kernel)
  · exact hinflates.refusesOthers (by decide)

end WeatherRadar.Level3
