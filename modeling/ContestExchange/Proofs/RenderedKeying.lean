import ContestExchange.Morse.Sidetone
import ContestExchange.Proofs.Decoding
import ContestExchange.Proofs.DoubleRange
import Mathlib.Algebra.Group.Int.Defs

namespace ContestExchange

/-!
# The sound of a keyed text

The samples of a text are those of its elements one behind the other, and every element has a whole
number of dots.  So the place of an element on the grid is counted from the dots before it, however
the samples of a dot were rounded.  A tone swells in half a dot at most, and no element is shorter
than a dot, which leaves room for the swelling and the fading in each of them.

What can fail is the way to the measures.  The pitch and the swelling have doubles as soon as their
products with the sample rate have, and a finite product stays finite when it is divided by a
thousand.  Nothing of the kind is known about the dot: the rate or the speed may have no double, and the
quotient may be infinite.  Beside that the memory may refuse the samples of the elements, and what it
refuses is left open.  These are the only cases in which there is no sound.
-/

/-! ## Elements -/

namespace Keying

theorem dots_pos_of_mem_spaced {dots : Nat} {groups : List (List Element)} {element : Element}
    (gapped : 0 < dots) (grouped : ∀ group ∈ groups, ∀ element ∈ group, 0 < element.dots)
    (member : element ∈ spaced dots groups) : 0 < element.dots := by
  rcases mem_spaced member with between | ⟨group, among, inside⟩
  · rw [between]
    exact gapped
  · exact grouped group among element inside

theorem dots_pos_of_mem_ofCode {code : Code} {element : Element} (member : element ∈ ofCode code) :
    0 < element.dots := by
  refine dots_pos_of_mem_spaced Nat.one_pos ?_ member
  intro group among element inside
  rcases List.mem_map.mp among with ⟨mark, _, same⟩
  rw [← same, List.mem_singleton] at inside
  rw [inside]
  cases mark <;> decide

theorem dots_pos_of_mem_ofWord {word : Text} {element : Element} (member : element ∈ ofWord word) :
    0 < element.dots := by
  refine dots_pos_of_mem_spaced (by decide) ?_ member
  intro group among element inside
  rcases List.mem_map.mp among with ⟨code, _, same⟩
  rw [← same] at inside
  exact dots_pos_of_mem_ofCode inside

theorem dots_pos_of_mem_ofWords {words : List Text} {element : Element}
    (member : element ∈ ofWords words) : 0 < element.dots := by
  induction words with
  | nil => cases member
  | cons word rest inductionHypothesis =>
      rw [ofWords] at member
      split at member
      · exact inductionHypothesis member
      · rcases List.mem_append.mp member with here | behind
        · exact dots_pos_of_mem_ofWord here
        · rcases List.mem_flatMap.mp behind with ⟨other, _, inside⟩
          rcases List.mem_cons.mp inside with between | within
          · rw [between]
            decide
          · exact dots_pos_of_mem_ofWord within

/-- No element of a text is without length. -/
theorem dots_pos_of_mem_ofText {text : Text} {element : Element} (member : element ∈ ofText text) :
    0 < element.dots := dots_pos_of_mem_ofWords member

end Keying

/-! ## Products -/

namespace Quantity

/-- Whether the product of two quantities is a finite double. -/
def HasFiniteProduct (left right : Quantity) : Prop :=
  ∃ product nearest, left.times right = .ok product ∧ product.toDouble = .ok nearest ∧
    nearest.IsFinite

theorem toDouble_whole_eq_ok_iff {number : Int} {nearest : Double} :
    (whole number).toDouble = .ok nearest ↔
      nearest = .ofInt number ∧ number.natAbs < Double.leastInfinite := by
  rw [← Double.ofInt?_eq_some_iff, toDouble]
  cases Double.ofInt? number with
  | none => exact iff_of_false nofun nofun
  | some other => exact ⟨fun same => congrArg some (Except.ok.inj same), fun same =>
      congrArg Except.ok (Option.some.inj same)⟩

theorem hasFiniteProduct_whole_iff {left right : Int} :
    HasFiniteProduct (.whole left) (.whole right) ↔
      (left * right).natAbs < Double.leastInfinite := by
  constructor
  · rintro ⟨product, nearest, multiplied, rounded, _⟩
    rw [← Except.ok.inj multiplied, toDouble_whole_eq_ok_iff] at rounded
    exact rounded.2
  · intro bounded
    exact ⟨_, _, rfl, toDouble_whole_eq_ok_iff.mpr ⟨rfl, bounded⟩,
      (Double.isFinite_ofInt_iff _).mpr bounded⟩

/-- A factor of an integer has a double if the product has one. -/
theorem HasFiniteProduct.exists_toDouble {rate : Int} {factor : Quantity} (nonzero : rate ≠ 0)
    (finite : HasFiniteProduct (.whole rate) factor) :
    ∃ nearest, factor.toDouble = .ok nearest := by
  cases factor with
  | double number => exact ⟨number, rfl⟩
  | whole number =>
      have bounded := hasFiniteProduct_whole_iff.mp finite
      rw [Int.natAbs_mul] at bounded
      have smaller : number.natAbs ≤ rate.natAbs * number.natAbs :=
        Nat.le_mul_of_pos_left _ (Int.natAbs_pos.mpr nonzero)
      exact ⟨_, toDouble_whole_eq_ok_iff.mpr ⟨rfl, Nat.lt_of_le_of_lt smaller bounded⟩⟩

end Quantity

namespace Sidetone

/-! ## The measures of a sound -/

section Measures

variable {sidetone : Sidetone} {shape : Shape}

/-- A sound has measures as far as it has a dot, a swelling and an angle. -/
theorem shape_eq_ok_iff :
    sidetone.shape = .ok shape ↔
      ∃ rate, sidetone.sampleRate.toDouble = .ok rate ∧
        sidetone.dotSamples rate = .ok shape.dotSamples ∧
        sidetone.rampSamples shape.dotSamples = .ok shape.ramp ∧
        sidetone.step rate = .ok shape.step ∧ sidetone.volume.toUnit = shape.volume := by
  unfold Sidetone.shape
  simp only [bind_eq_ok_iff]
  constructor
  · rintro ⟨rate, sampled, dots, counted, ramp, swelling, step, turned, done⟩
    cases done
    exact ⟨rate, sampled, counted, swelling, turned, rfl⟩
  · rcases shape with ⟨dots, ramp, volume, step⟩
    rintro ⟨rate, sampled, counted, swelling, turned, rfl⟩
    exact ⟨rate, sampled, dots, counted, ramp, swelling, step, turned, rfl⟩

/-- The rounded samples of a dot at a speed, at least one. -/
def roundedDot (rate speed : Double) : Nat :=
  (max ((Message.dotSeconds.div speed).mul rate).roundToInt 1).toNat

theorem dotSamples_eq_ok_iff {rate : Double} {dot : Nat} :
    sidetone.dotSamples rate = .ok dot ↔
      ∃ speed, Message.rate sidetone.wpm = .ok speed ∧
        ((Message.dotSeconds.div speed).mul rate).IsFinite ∧ roundedDot rate speed = dot := by
  unfold dotSamples
  simp only [bind_eq_ok_iff, Double.finite_eq_ok_iff]
  constructor
  · rintro ⟨speed, sped, _, ⟨finite, rfl⟩, done⟩
    exact ⟨speed, sped, finite, Except.ok.inj done⟩
  · rintro ⟨speed, sped, finite, same⟩
    exact ⟨speed, sped, _, ⟨finite, rfl⟩, congrArg Except.ok same⟩

/-- The tone swells in half a dot at most. -/
theorem two_mul_rampSamples_le {dot ramp : Nat} (swelling : sidetone.rampSamples dot = .ok ramp) :
    2 * ramp ≤ dot := by
  unfold rampSamples at swelling
  simp only [bind_eq_ok_iff] at swelling
  rcases swelling with ⟨product, _, nearest, _, thousandth, _, done⟩
  cases done
  omega

theorem rampSamples_eq_ok (finite : sidetone.sampleRate.HasFiniteProduct sidetone.rampMilliseconds)
    (dot : Nat) : ∃ ramp, sidetone.rampSamples dot = .ok ramp := by
  rcases finite with ⟨product, nearest, multiplied, rounded, bounded⟩
  have thousand : (Double.ofInt 1000).IsFinite := by decide +kernel
  have large : (Double.ofInt 1000).denominator ≤ (Double.ofInt 1000).numerator := by
    decide +kernel
  have thousandth := bounded.div thousand large
  unfold rampSamples
  simp only [bind_eq_ok_iff, Double.finite_eq_ok_iff]
  exact ⟨_, product, multiplied, nearest, rounded, _, ⟨thousandth, rfl⟩, rfl⟩

theorem step_eq_ok {rate : Int} {nearest : Double} (sampled : sidetone.sampleRate = .whole rate)
    (nonzero : rate ≠ 0) (rounded : sidetone.sampleRate.toDouble = .ok nearest)
    (finite : sidetone.sampleRate.HasFiniteProduct sidetone.pitch) :
    ∃ step, sidetone.step nearest = .ok step := by
  rw [sampled] at rounded finite
  rcases finite.exists_toDouble nonzero with ⟨pitch, pitched⟩
  have turning : nearest.isZero = false := by
    rw [(Quantity.toDouble_whole_eq_ok_iff.mp rounded).1, ← Bool.not_eq_true,
      Double.isZero_ofInt_iff]
    exact nonzero
  unfold step
  simp only [pitched, turning]
  exact ⟨_, rfl⟩

namespace Shape

theorem size_eq (shape : Shape) (elements : List Element) :
    shape.size elements = shape.dotSamples * Keying.totalDots elements := by
  rw [size, Keying.totalDots, Nat.mul_comm]
  exact Sequence.total_mul Element.dots shape.dotSamples elements

theorem samples_append (shape : Shape) (start : Nat) (front back : List Element) :
    shape.samples start (front ++ back) =
      shape.samples start front ++ shape.samples (start + shape.size front) back := by
  induction front generalizing start with
  | nil => rfl
  | cons element rest inductionHypothesis =>
      rw [List.cons_append, samples, samples, inductionHypothesis, List.append_assoc, size, size,
        Sequence.total, Nat.add_assoc]

theorem length_elementSamples (shape : Shape) (start : Nat) (element : Element) :
    (shape.elementSamples start element).length = shape.elementSize element := by
  rw [elementSamples, List.length_map, List.length_range]

theorem elementSamples_of_isUp (shape : Shape) (start : Nat) {element : Element}
    (up : element.isDown = false) :
    shape.elementSamples start element = List.replicate (shape.elementSize element) 0.0 := by
  rw [List.eq_replicate_iff]
  refine ⟨shape.length_elementSamples start element, ?_⟩
  intro level member
  rcases List.mem_map.mp member with ⟨place, _, same⟩
  rw [← same, sample, up]
  rfl

end Shape

end Measures

/-! ## Alignment -/

/-- The samples of a sound in the time of an element that comes behind some others. -/
def Shape.piece (shape : Shape) (samples : Samples) (front : List Element) (element : Element) :
    Samples :=
  (samples.drop (shape.dotSamples * Keying.totalDots front)).take (shape.dotSamples * element.dots)

/-- Whether samples follow elements on the grid of a shape. -/
structure IsAligned (shape : Shape) (elements : List Element) (samples : Samples) : Prop where
  length : samples.length = shape.dotSamples * Keying.totalDots elements
  filled : ∀ front element back, elements = front ++ element :: back →
    shape.piece samples front element =
      shape.elementSamples (shape.dotSamples * Keying.totalDots front) element
  silent : ∀ front element back, elements = front ++ element :: back → element.isDown = false →
    shape.piece samples front element = List.replicate (shape.dotSamples * element.dots) 0.0
  apart : ∀ element ∈ elements, element.isDown = true →
    2 * shape.ramp ≤ shape.dotSamples * element.dots

section Alignment

variable {shape : Shape} {elements : List Element}

theorem piece_samples (shape : Shape) (front : List Element) (element : Element)
    (back : List Element) :
    shape.piece (shape.samples 0 (front ++ element :: back)) front element =
      shape.elementSamples (shape.dotSamples * Keying.totalDots front) element := by
  have before : (shape.samples 0 front).length = shape.dotSamples * Keying.totalDots front := by
    rw [shape.length_samples, shape.size_eq]
  have inside : (shape.elementSamples (shape.dotSamples * Keying.totalDots front) element).length =
      shape.dotSamples * element.dots := by
    rw [shape.length_elementSamples, Shape.elementSize, Nat.mul_comm]
  rw [Shape.piece, shape.samples_append, shape.size_eq, Nat.zero_add, List.drop_left' before,
    Shape.samples, List.take_left' inside]

theorem isAligned_samples (slow : 2 * shape.ramp ≤ shape.dotSamples)
    (present : ∀ element ∈ elements, 0 < element.dots) :
    IsAligned shape elements (shape.samples 0 elements) where
  length := by rw [shape.length_samples, shape.size_eq]
  filled := by
    rintro front element back rfl
    exact piece_samples shape front element back
  silent := by
    rintro front element back rfl up
    rw [piece_samples, shape.elementSamples_of_isUp _ up, Shape.elementSize, Nat.mul_comm]
  apart element member _ :=
    Nat.le_trans slow (Nat.le_mul_of_pos_right _ (present element member))

end Alignment

/-- Whether the numbers of a sidetone are finite beside its sample rate: the rate is a positive
integer with which all others have finite products, but for the speed, which is an integer. -/
structure IsRegular (sidetone : Sidetone) (rate wpm : Int) : Prop where
  sampled : sidetone.sampleRate = .whole rate
  positive : 0 < rate
  sped : sidetone.wpm = .whole wpm
  pitched : sidetone.sampleRate.HasFiniteProduct sidetone.pitch
  loud : sidetone.sampleRate.HasFiniteProduct sidetone.volume
  ramped : sidetone.sampleRate.HasFiniteProduct sidetone.rampMilliseconds

/-- Whether a dot has finitely many samples, at a sample rate and a speed that have doubles. -/
structure HasDot (sidetone : Sidetone) (rate speed : Double) : Prop where
  sampled : sidetone.sampleRate.toDouble = .ok rate
  sped : Message.rate sidetone.wpm = .ok speed
  finite : ((Message.dotSeconds.div speed).mul rate).IsFinite

/-- Whether a memory has room for elements one after the other, each with the samples of its dots. -/
def HasRoom (memory : Memory) (dot : Nat) (elements : List Element) : Prop :=
  memory.reserve (elements.map fun element => element.dots * dot) = .ok ()

section Room

variable {sidetone : Sidetone} {shape : Shape} {memory : Memory} {text : Text}

/-- A regular sidetone has measures if it has a dot. -/
theorem IsRegular.exists_shape {whole wpm : Int} {rate speed : Double}
    (regular : sidetone.IsRegular whole wpm) (dotted : sidetone.HasDot rate speed) :
    ∃ shape, sidetone.shape = .ok shape ∧ shape.dotSamples = roundedDot rate speed := by
  have counted := dotSamples_eq_ok_iff.mpr ⟨speed, dotted.sped, dotted.finite, rfl⟩
  rcases rampSamples_eq_ok regular.ramped (roundedDot rate speed) with ⟨ramp, swelling⟩
  rcases step_eq_ok regular.sampled (Int.ne_of_gt regular.positive) dotted.sampled
    regular.pitched with ⟨step, turned⟩
  have measured : sidetone.shape =
      .ok ⟨roundedDot rate speed, ramp, sidetone.volume.toUnit, step⟩ :=
    shape_eq_ok_iff.mpr ⟨rate, dotted.sampled, counted, swelling, turned, rfl⟩
  exact ⟨_, measured, rfl⟩

/-- The samples of a dot come from a rate and a speed. -/
theorem exists_hasDot (measured : sidetone.shape = .ok shape) :
    ∃ rate speed, sidetone.HasDot rate speed ∧ roundedDot rate speed = shape.dotSamples := by
  rcases shape_eq_ok_iff.mp measured with ⟨rate, sampled, counted, _⟩
  rcases dotSamples_eq_ok_iff.mp counted with ⟨speed, sped, finite, same⟩
  exact ⟨rate, speed, ⟨sampled, sped, finite⟩, same⟩

theorem render_of_keyed (keyed : Keying.ofText text ≠ []) :
    sidetone.render memory text =
      (sidetone.layout memory (Keying.ofText text)).map fun shape =>
        shape.samples 0 (Keying.ofText text) :=
  if_neg (mt List.isEmpty_iff.mp keyed)

/-- A text with something to key has a sound if that has measures and there is room for it. -/
theorem render_eq_ok_iff {samples : Samples} (keyed : Keying.ofText text ≠ []) :
    sidetone.render memory text = .ok samples ↔
      ∃ shape, sidetone.shape = .ok shape ∧
        HasRoom memory shape.dotSamples (Keying.ofText text) ∧
        shape.samples 0 (Keying.ofText text) = samples := by
  rw [render_of_keyed keyed]
  unfold layout
  simp only [map_eq_ok_iff, bind_eq_ok_iff]
  constructor
  · rintro ⟨_, ⟨_, measured, _, reserved, done⟩, filled⟩
    cases done
    exact ⟨_, measured, reserved, filled⟩
  · rintro ⟨found, measured, room, filled⟩
    exact ⟨found, ⟨found, measured, (), room, rfl⟩, filled⟩

end Room

/-- A text with nothing to key sounds as a single silent sample.  Any other one has a sound at a
regular sidetone exactly if that has a dot and the memory has room for the elements, and then there are
as many samples as there are dots in them.  Each element fills the samples of its own dots behind those
of the dots before it; where the key is up they are zero, and where it is down the swelling and the
fading of the tone do not meet. -/
theorem render_of_isRegular {sidetone : Sidetone} {rate wpm : Int} (memory : Memory) (text : Text)
    (regular : sidetone.IsRegular rate wpm) :
    (Keying.ofText text = [] → sidetone.render memory text = .ok [0.0]) ∧
      (Keying.ofText text ≠ [] →
        ((∃ samples, sidetone.render memory text = .ok samples) ↔
            ∃ rate speed, sidetone.HasDot rate speed ∧
              HasRoom memory (roundedDot rate speed) (Keying.ofText text)) ∧
          ∀ rate speed, sidetone.HasDot rate speed →
            HasRoom memory (roundedDot rate speed) (Keying.ofText text) →
              ∃ shape samples, sidetone.shape = .ok shape ∧
                shape.dotSamples = roundedDot rate speed ∧
                sidetone.render memory text = .ok samples ∧
                IsAligned shape (Keying.ofText text) samples) := by
  constructor
  · intro silent
    rw [render, silent]
    rfl
  · intro keyed
    have rendered : ∀ rate speed, sidetone.HasDot rate speed →
        HasRoom memory (roundedDot rate speed) (Keying.ofText text) →
          ∃ shape samples, sidetone.shape = .ok shape ∧ shape.dotSamples = roundedDot rate speed ∧
            sidetone.render memory text = .ok samples ∧
            IsAligned shape (Keying.ofText text) samples := by
      intro rate speed dotted room
      rcases regular.exists_shape dotted with ⟨shape, measured, dot⟩
      rcases shape_eq_ok_iff.mp measured with ⟨_, _, _, swelling, _⟩
      refine ⟨shape, _, measured, dot,
        (render_eq_ok_iff keyed).mpr ⟨shape, measured, dot.symm ▸ room, rfl⟩, ?_⟩
      exact isAligned_samples (two_mul_rampSamples_le swelling)
        fun element => Keying.dots_pos_of_mem_ofText
    refine ⟨⟨?_, ?_⟩, rendered⟩
    · rintro ⟨samples, done⟩
      rcases (render_eq_ok_iff keyed).mp done with ⟨shape, measured, room, _⟩
      rcases exists_hasDot measured with ⟨rate, speed, dotted, same⟩
      exact ⟨rate, speed, dotted, same.symm ▸ room⟩
    · rintro ⟨rate, speed, dotted, room⟩
      rcases rendered rate speed dotted room with ⟨_, samples, _, _, done, _⟩
      exact ⟨samples, done⟩

/-- A memory with room for so many samples altogether. -/
def Memory.ofSize (available : Nat) : Memory :=
  ⟨fun sizes =>
    if Sequence.total (fun size => size) sizes ≤ available then .ok () else .error .outOfMemory⟩

/-- A dot, a gap between words and a dash at the standard pitch and speed, in a memory that has room for
no sample more. -/
theorem render_of_isRegular_standard :
    ({} : Sidetone).IsRegular 48000 30 ∧
      ∃ shape samples, ({} : Sidetone).shape = .ok shape ∧ shape.dotSamples = 1920 ∧
        ({} : Sidetone).render (Memory.ofSize 21120) (Text.ofString "E T") = .ok samples ∧
        IsAligned shape [⟨true, 1⟩, ⟨false, 7⟩, ⟨true, 3⟩] samples := by
  have regular : ({} : Sidetone).IsRegular 48000 30 :=
    ⟨rfl, by decide, rfl, Quantity.hasFiniteProduct_whole_iff.mpr (by decide +kernel),
      ⟨_, _, rfl, rfl, by decide +kernel⟩,
      Quantity.hasFiniteProduct_whole_iff.mpr (by decide +kernel)⟩
  have dotted : ({} : Sidetone).HasDot (.ofInt 48000) (.ofInt 30) :=
    ⟨rfl, rfl, by decide +kernel⟩
  have dot : roundedDot (.ofInt 48000) (.ofInt 30) = 1920 := by decide +kernel
  have room : HasRoom (Memory.ofSize 21120) (roundedDot (.ofInt 48000) (.ofInt 30))
      (Keying.ofText (Text.ofString "E T")) := by
    rw [dot]
    rfl
  have keyed : Keying.ofText (Text.ofString "E T") ≠ [] := by decide +kernel
  have rendered :=
    ((render_of_isRegular (Memory.ofSize 21120) (Text.ofString "E T") regular).2 keyed).2 _ _
      dotted room
  rw [dot] at rendered
  exact ⟨regular, rendered⟩

/-- A speed beyond all doubles has no dot, however much memory there is, and at a high sample rate the
memory can be too small for a dot, a gap between words and a dash. -/
theorem render_of_isRegular_without_sound :
    (({ wpm := .whole (10 ^ 400) } : Sidetone).IsRegular 48000 (10 ^ 400) ∧
        ∀ memory, ({ wpm := .whole (10 ^ 400) } : Sidetone).render memory (Text.ofString "K") =
          .error .tooLarge) ∧
      (({ sampleRate := .whole (10 ^ 20) } : Sidetone).IsRegular (10 ^ 20) 30 ∧
        ∀ available < 44 * 10 ^ 18,
          ({ sampleRate := .whole (10 ^ 20) } : Sidetone).render (Memory.ofSize available)
            (Text.ofString "E T") = .error .outOfMemory) := by
  refine ⟨⟨⟨rfl, by decide, rfl, ?_, ?_, ?_⟩, ?_⟩, ⟨rfl, by decide, rfl, ?_, ?_, ?_⟩, ?_⟩
  · exact Quantity.hasFiniteProduct_whole_iff.mpr (by decide +kernel)
  · exact ⟨_, _, rfl, rfl, by decide +kernel⟩
  · exact Quantity.hasFiniteProduct_whole_iff.mpr (by decide +kernel)
  · intro memory
    have shapeless : Fault.of? ({ wpm := .whole (10 ^ 400) } : Sidetone).shape = some .tooLarge := by
      decide +kernel
    have keyed : Keying.ofText (Text.ofString "K") ≠ [] := by decide +kernel
    rw [render_of_keyed keyed, layout, Fault.of?_eq_some_iff.mp shapeless]
    rfl
  · exact Quantity.hasFiniteProduct_whole_iff.mpr (by decide +kernel)
  · exact ⟨_, _, rfl, rfl, by decide +kernel⟩
  · exact Quantity.hasFiniteProduct_whole_iff.mpr (by decide +kernel)
  · intro available small
    have counted : (({ sampleRate := .whole (10 ^ 20) } : Sidetone).shape.map fun shape =>
        (Keying.ofText (Text.ofString "E T")).map shape.elementSize) =
          .ok [4 * 10 ^ 18, 28 * 10 ^ 18, 12 * 10 ^ 18] := rfl
    rcases map_eq_ok_iff.mp counted with ⟨shape, measured, sizes⟩
    have keyed : Keying.ofText (Text.ofString "E T") ≠ [] := by decide +kernel
    have refused : (Memory.ofSize available).reserve [4 * 10 ^ 18, 28 * 10 ^ 18, 12 * 10 ^ 18] =
        .error .outOfMemory := if_neg (Nat.not_le_of_lt small)
    rw [render_of_keyed keyed, layout, measured]
    dsimp only [bind, Except.bind]
    rw [sizes, refused]
    rfl

end Sidetone
end ContestExchange
