import ContestExchange.Morse.Keying
import ContestExchange.Morse.Message
import ContestExchange.Number.Quantity

namespace ContestExchange

/-!
# The sidetone

An operator hears what is being keyed as a tone.  All elements of a text are rendered on one grid of
samples: a dot has a fixed number of them, and an element has as many as its dots.  While the key is
down the samples follow a sine wave that swells at the start of the element and fades at its end;
while it is up they are zero.  The swelling takes at most half a dot, so the two never meet.

The samples are held in memory.  How much of that there is and with what fault it is refused is no
matter of the sound, so the memory is asked for the samples of all elements before they are rendered.
The levels are calculated with, but nothing is said here about how exact they are.
-/

/-- How a sidetone sounds. -/
structure Sidetone where
  sampleRate : Quantity := .whole 48000
  pitch : Quantity := .whole 600
  wpm : Quantity := .whole 30
  volume : Quantity := .double (.ofRatio false 3 10)
  rampMilliseconds : Quantity := .whole 5

/-- The memory that sounds are held in: what asking for room comes to, for some numbers of samples one
after the other. -/
structure Memory where
  reserve : List Nat → Except Fault Unit

/-- A number for each sample of a sound. -/
abbrev Samples := List Float

namespace Sidetone

/-- The measures of a sound on its grid of samples. -/
structure Shape where
  dotSamples : Nat
  ramp : Nat
  volume : Double
  step : Double

/-- The samples of a dot, at least one, at a sample rate. -/
def dotSamples (sidetone : Sidetone) (rate : Double) : Except Fault Nat := do
  let speed ← Message.rate sidetone.wpm
  let exact ← ((Message.dotSeconds.div speed).mul rate).finite
  return (max exact.roundToInt 1).toNat

/-- The samples in which the tone swells: at most half a dot. -/
def rampSamples (sidetone : Sidetone) (dotSamples : Nat) : Except Fault Nat := do
  let thousandfold ← sidetone.sampleRate.times sidetone.rampMilliseconds
  let exact ← ((← thousandfold.toDouble).div (.ofInt 1000)).finite
  return min exact.truncate.toNat (dotSamples / 2)

/-- A full turn. -/
def fullTurn : Double := .ofRatio false 884279719003555 (Nat.pow 2 47)

/-- The angle from one sample to the next; there is none without samples. -/
def step (sidetone : Sidetone) (rate : Double) : Except Fault Double := do
  let pitch ← sidetone.pitch.toDouble
  if rate.isZero then
    .error .divisionByZero
  else
    return (fullTurn.mul pitch).div rate

/-- The measures of a sound. -/
def shape (sidetone : Sidetone) : Except Fault Shape := do
  let rate ← sidetone.sampleRate.toDouble
  let dotSamples ← sidetone.dotSamples rate
  let ramp ← sidetone.rampSamples dotSamples
  return ⟨dotSamples, ramp, sidetone.volume.toUnit, ← sidetone.step rate⟩

namespace Shape

/-- The samples of an element. -/
def elementSize (shape : Shape) (element : Element) : Nat := element.dots * shape.dotSamples

/-- How far a tone of `size` samples has swollen at one of them. -/
def swelling (shape : Shape) (size place : Nat) : Float :=
  if place < shape.ramp then place.toFloat / shape.ramp.toFloat
  else if size ≤ place + shape.ramp then
    1.0 - (place + shape.ramp - size).toFloat / shape.ramp.toFloat
  else 1.0

/-- The number of a sample on the grid, in single precision: the numbers of an element go up from that
of its first sample by the step between its first two. -/
def gridNumber (start place : Nat) : Float32 :=
  let first := start.toFloat.toFloat32
  first + place.toFloat32 * ((start + 1).toFloat.toFloat32 - first)

/-- The sine wave at a sample of an element that starts at `start`, with the angle in single
precision. -/
def wave (shape : Shape) (start place : Nat) : Float :=
  (shape.step.toFloat.toFloat32 * gridNumber start place).toFloat.sin

/-- A sample of an element that starts at `start`. -/
def sample (shape : Shape) (start : Nat) (element : Element) (place : Nat) : Float :=
  if element.isDown then
    shape.wave start place * shape.swelling (shape.elementSize element) place *
      shape.volume.toFloat
  else 0.0

/-- The samples of an element that starts at `start`. -/
def elementSamples (shape : Shape) (start : Nat) (element : Element) : Samples :=
  (List.range (shape.elementSize element)).map (shape.sample start element)

/-- The samples of a row of elements, the first of which starts at `start`. -/
def samples (shape : Shape) (start : Nat) : List Element → Samples
  | [] => []
  | element :: rest =>
      shape.elementSamples start element ++ shape.samples (start + shape.elementSize element) rest

/-- The number of samples of a row of elements. -/
def size (shape : Shape) (elements : List Element) : Nat :=
  Sequence.total shape.elementSize elements

theorem length_samples (shape : Shape) (start : Nat) (elements : List Element) :
    (shape.samples start elements).length = shape.size elements := by
  induction elements generalizing start with
  | nil => rfl
  | cons element rest hypothesis =>
      simp [samples, elementSamples, size, Sequence.total, hypothesis]

end Shape

/-- The measures of the sound of some elements, for which there has to be room. -/
def layout (sidetone : Sidetone) (memory : Memory) (elements : List Element) :
    Except Fault Shape := do
  let shape ← sidetone.shape
  memory.reserve (elements.map shape.elementSize)
  return shape

/-- The samples of a text; without anything to key there is a single silent one. -/
def render (sidetone : Sidetone) (memory : Memory) (text : Text) : Except Fault Samples :=
  let elements := Keying.ofText text
  if elements.isEmpty then .ok [0.0]
  else (sidetone.layout memory elements).map fun shape => shape.samples 0 elements

/-- The number of samples of a text. -/
def size (sidetone : Sidetone) (memory : Memory) (text : Text) : Except Fault Nat :=
  let elements := Keying.ofText text
  if elements.isEmpty then .ok 1
  else (sidetone.layout memory elements).map fun shape => shape.size elements

/-- The number of samples is known without rendering them. -/
theorem map_length_render (sidetone : Sidetone) (memory : Memory) (text : Text) :
    (sidetone.render memory text).map List.length = sidetone.size memory text := by
  unfold render size
  by_cases silent : (Keying.ofText text).isEmpty
  · simp [silent, Except.map]
  · simp only [silent]
    cases sidetone.layout memory (Keying.ofText text) with
    | error fault => rfl
    | ok shape => simp [Except.map, Shape.length_samples]

end Sidetone
end ContestExchange
