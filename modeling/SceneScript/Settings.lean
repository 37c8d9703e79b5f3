import SceneScript.Shading

/-! # Render settings

What all frames of a run share: the canvas, the colours, the light, the reflectance of shapes that
name no constants, and how finely curved shapes are divided. -/

namespace SceneScript

/-- The settings of a run. -/
structure Settings where
  canvas : Canvas
  background : Rgb
  lineColor : Rgb
  lighting : Lighting
  reflectance : Reflectance
  step : UInt32
deriving BEq, Repr, Inhabited

namespace Settings

/-- The settings when nothing else is said. -/
def standard : Settings where
  canvas := ⟨500, 500⟩
  background := .black
  lineColor := .black
  lighting := .standard
  reflectance := .standard
  step := 20

/-- Refuse an empty canvas, and a division into no parts. -/
def validate (s : Settings) : Except Fault Unit := do
  let _ ← Canvas.ofSize s.canvas.width s.canvas.height
  if s.step = 0 then .error .zeroStep else .ok ()

/-- A surface that nothing was drawn on. -/
def blankSurface (s : Settings) : Surface := .blank s.canvas s.background

end Settings

end SceneScript
