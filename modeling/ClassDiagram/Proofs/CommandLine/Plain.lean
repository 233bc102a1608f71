import ClassDiagram.CommandLine.Invocation
import Mathlib

/-!
# Plain command lines

The command lines that ask for a diagram in the plainest way: paths that do not start with a dash
stand for themselves, whatever else is in them.

* `Invocation.parse_render` and `Invocation.parse_render_filters` read these command lines.
-/

namespace ClassDiagram.CommandLine

/-! ### Words -/

/-- A word that is not taken for an option. -/
def IsPlain (w : String) : Prop := w.toList.head? ≠ some '-'

namespace IsPlain

variable {κ : Type} {w : String}

theorem ne_separator (h : IsPlain w) : w ≠ separator := by
  rintro rfl
  exact h rfl

theorem classifyWord (h : IsPlain w) (f : Form κ) : f.classifyWord w = .ok .plain := by
  have hw : w.toList.head? ≠ some '-' := h
  simp [Form.classifyWord, hw]

theorem classify (h : IsPlain w) (f : Form κ) (ws : List String) :
    f.classify (w :: ws) = (f.classify ws).map (⟨w, .plain⟩ :: ·) := by
  rw [Form.classify, if_neg h.ne_separator, h.classifyWord]
  rfl

end IsPlain

theorem isPlain_render : IsPlain "render" := by
  simp [IsPlain]

/-- The option that names a filter configuration. -/
def filtersOption : Opt RenderKey := ⟨.filters, ["--filters"], .word⟩

/-- The program as a whole has no such option. -/
theorem generalForm_classifyWord_filters :
    generalForm.classifyWord "--filters" = .ok .unknown := by
  rfl

theorem renderForm_classifyWord_filters :
    renderForm.classifyWord "--filters" = .ok (.option ⟨filtersOption, false, .none⟩) := by
  rfl

/-! ### Command lines -/

namespace Invocation

open Form

variable {snapshot config : String} {words : List String}

/-- All words behind a command belong to it. -/
theorem generalForm_parse {kinds : List (Word GeneralKey)}
    (h : generalForm.classify words = .ok kinds) (hk : kinds.map Word.text = words) :
    generalForm.parse ("render" :: words) = .ok ⟨[], some ("render" :: words), []⟩ := by
  rw [Form.parse, isPlain_render.classify, h]
  simp [Except.mapError, Except.map, bind, Except.bind, consume, positionalLength?, generalForm,
    isSeparator, hk]

theorem parse_render_of_parse {events : List (Event RenderKey)}
    (hg : generalForm.parse ("render" :: words) = .ok ⟨[], some ("render" :: words), []⟩)
    (hr : renderForm.parse words = .ok ⟨events, some [snapshot], []⟩) (hs : IsPlain snapshot) :
    parse ("render" :: words) = .ok ⟨false, .render snapshot (lastValue? .filters events)
      (lastValue? .output events)⟩ := by
  have harg : argumentOf [snapshot] = snapshot := by
    simp [argumentOf, hs.ne_separator]
  rw [parse, hg]
  simp [Except.mapError, bind, Except.bind, pure, Except.pure, parseCommand, parseRender, hr, harg,
    occurs]

theorem parse_render (hs : IsPlain snapshot) :
    parse ["render", snapshot] = .ok ⟨false, .render snapshot none none⟩ := by
  have hr : renderForm.parse [snapshot] = .ok ⟨[], some [snapshot], []⟩ := by
    rw [Form.parse, hs.classify]
    simp [Form.classify, Except.mapError, Except.map, bind, Except.bind, consume,
      positionalLength?, renderForm, isSeparator]
  have hg : generalForm.classify [snapshot] = .ok [⟨snapshot, .plain⟩] := hs.classify _ _
  exact parse_render_of_parse (generalForm_parse hg rfl) hr hs

theorem parse_render_filters (hs : IsPlain snapshot) (hc : IsPlain config) :
    parse ["render", snapshot, "--filters", config] =
      .ok ⟨false, .render snapshot (some config) none⟩ := by
  have hg : generalForm.classify [snapshot, "--filters", config] =
      .ok [⟨snapshot, .plain⟩, ⟨"--filters", .unknown⟩, ⟨config, .plain⟩] := by
    rw [hs.classify, Form.classify, if_neg (by decide), generalForm_classifyWord_filters,
      hc.classify]
    rfl
  have hk : renderForm.classify [snapshot, "--filters", config] =
      .ok [⟨snapshot, .plain⟩, ⟨"--filters", .option ⟨filtersOption, false, .none⟩⟩,
        ⟨config, .plain⟩] := by
    rw [hs.classify, Form.classify, if_neg (by decide), renderForm_classifyWord_filters,
      hc.classify]
    rfl
  have hr : renderForm.parse [snapshot, "--filters", config] =
      .ok ⟨[(filtersOption, some config)], some [snapshot], []⟩ := by
    rw [Form.parse, hk]
    simp [Except.mapError, bind, Except.bind, consume, positionalLength?, renderForm, isSeparator,
      Form.read, readAlone, Opt.takesValue, filtersOption, checkEvents]
  exact parse_render_of_parse (generalForm_parse hg rfl) hr hs

end Invocation

end ClassDiagram.CommandLine
