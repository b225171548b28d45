import MarkdownLayout.Content.Conversion

set_option autoImplicit false

namespace MarkdownLayout

theorem run_bind_done {ε σ α β : Type} (first : ExceptT ε (StateM σ) α) (next : α → ExceptT ε (StateM σ) β)
    (s after : σ) (a : α) (done : first.run s = (.ok a, after)) : (first >>= next).run s = (next a).run after := by
  have ran : StateT.run first.run s = (Except.ok a, after) := done
  change StateT.run (first >>= next).run s = _
  rw [ExceptT.run_bind, StateT.run_bind, ran]
  rfl

theorem run_bind_stopped {ε σ α β : Type} (first : ExceptT ε (StateM σ) α) (next : α → ExceptT ε (StateM σ) β)
    (s after : σ) (fault : ε) (stopped : first.run s = (.error fault, after)) :
    (first >>= next).run s = (.error fault, after) := by
  have ran : StateT.run first.run s = (Except.error fault, after) := stopped
  change StateT.run (first >>= next).run s = _
  rw [ExceptT.run_bind, StateT.run_bind, ran]
  rfl

def outcome {α : Type} (walk : Walk α) (s : Slugger) : Except Misplaced α × Slugger := (walk.run s).value

def remarks {α : Type} (walk : Walk α) (s : Slugger) : List Notice := (walk.run s).notices

theorem outcome_pure {α : Type} (a : α) (s : Slugger) : outcome (pure a) s = (.ok a, s) := rfl

theorem outcome_bind {α β : Type} (walk : Walk α) (next : α → Walk β) (s after : Slugger) (a : α)
    (done : outcome walk s = (.ok a, after)) : outcome (walk >>= next) s = outcome (next a) after := by
  change (ExceptT.bindCont next (outcome walk s).1 (outcome walk s).2).value = _
  rw [done]
  rfl

theorem outcome_bind_failed {α β : Type} (walk : Walk α) (next : α → Walk β) (s after : Slugger)
    (part : Misplaced) (failed : outcome walk s = (.error part, after)) :
    outcome (walk >>= next) s = (.error part, after) := by
  change (ExceptT.bindCont next (outcome walk s).1 (outcome walk s).2).value = _
  rw [failed]
  rfl

theorem outcome_map {α β : Type} (f : α → β) (walk : Walk α) (s : Slugger) :
    outcome (f <$> walk) s = ((outcome walk s).1.map f, (outcome walk s).2) := by
  rw [map_eq_pure_bind]
  cases ran : outcome walk s with
  | mk result after =>
      cases result with
      | error part => exact outcome_bind_failed walk _ s after part ran
      | ok a => exact outcome_bind walk _ s after a ran

theorem outcome_bind_succeeded {α β : Type} (walk : Walk α) (next : α → Walk β) (s : Slugger) (b : β)
    (done : (outcome (walk >>= next) s).1 = .ok b) :
    ∃ a after, outcome walk s = (.ok a, after) ∧ outcome (walk >>= next) s = outcome (next a) after := by
  cases ran : outcome walk s with
  | mk result after =>
      cases result with
      | error part =>
          rw [outcome_bind_failed walk next s after part ran] at done
          cases done
      | ok a => exact ⟨a, after, rfl, outcome_bind walk next s after a ran⟩

-- A walk that fails yields nothing, so failing walks have every property here.
def Yields {α : Type} (walk : Walk α) (property : α → Prop) : Prop :=
  ∀ s a, (outcome walk s).1 = .ok a → property a

theorem yields_pure {α : Type} (a : α) (property : α → Prop) (holds : property a) :
    Yields (pure a) property := by
  intro s found same
  rw [← Except.ok.inj same]
  exact holds

theorem yields_throw {α : Type} (part : Misplaced) (property : α → Prop) :
    Yields (throw part : Walk α) property := by
  intro s found same
  cases same

theorem yields_bind {α β : Type} (walk : Walk α) (next : α → Walk β) (first : α → Prop) (property : β → Prop)
    (held : Yields walk first) (kept : ∀ a, first a → Yields (next a) property) :
    Yields (walk >>= next) property := by
  intro s b same
  obtain ⟨a, after, ran, continued⟩ := outcome_bind_succeeded walk next s b same
  rw [continued] at same
  exact kept a (held s a (by rw [ran])) after b same

theorem yields_always {α : Type} (walk : Walk α) : Yields walk fun _ => True := fun _ _ _ => trivial

theorem outcome_remark (ctx : Context) (l : Mdast.Leaf) (s : Slugger) : outcome (ctx.remark l) s = (.ok (), s) := by
  cases l with
  | image url alt title =>
      rw [Context.remark]
      cases (ctx.images.get? url).isNone <;> rfl
  | _ => rfl

theorem yields_leaf (ctx : Context) (deco : Decoration) (l : Mdast.Leaf) (property : List Content → Prop)
    (holds : property (ctx.leafContent deco l)) : Yields (ctx.convertNode deco (.leaf l)) property := by
  rw [Context.convertNode]
  exact yields_bind _ _ _ _ (yields_always _) fun _ _ => yields_pure _ _ holds

-- Walks that end alike and with the same slugger, as far as `left` tells their results apart.
def AgreeOn {α γ : Type} (left : α → γ) (walk other : Walk α) : Prop :=
  ∀ s, outcome (left <$> walk) s = outcome (left <$> other) s

theorem agree_refl {α γ : Type} (left : α → γ) (walk : Walk α) : AgreeOn left walk walk := fun _ => rfl

theorem agree_pure {α γ : Type} (left : α → γ) (a b : α) (same : left a = left b) :
    AgreeOn left (pure a) (pure b) := fun s => by
  rw [map_pure, map_pure, same]

theorem agree_cases {α γ : Type} (left : α → γ) (walk other : Walk α) (same : AgreeOn left walk other) (s : Slugger) :
    (∃ part rest, outcome walk s = (.error part, rest) ∧ outcome other s = (.error part, rest)) ∨
      ∃ a b rest, outcome walk s = (.ok a, rest) ∧ outcome other s = (.ok b, rest) ∧ left a = left b := by
  have ran := same s
  rw [outcome_map, outcome_map] at ran
  cases first : outcome walk s with
  | mk result rest =>
      cases second : outcome other s with
      | mk result' rest' =>
          rw [first, second] at ran
          obtain ⟨results, rfl⟩ := Prod.mk.inj ran
          cases result with
          | error part =>
              cases result' with
              | ok b => cases results
              | error part' =>
                  obtain rfl : part = part' := Except.error.inj results
                  exact .inl ⟨part, rest, rfl, rfl⟩
          | ok a =>
              cases result' with
              | error part' => cases results
              | ok b => exact .inr ⟨a, b, rest, rfl, rfl, Except.ok.inj results⟩

theorem agree_bind {α β γ δ : Type} (left : α → γ) (shown : β → δ) (walk other : Walk α) (next after : α → Walk β)
    (same : AgreeOn left walk other) (agree : ∀ a b, left a = left b → AgreeOn shown (next a) (after b)) :
    AgreeOn shown (walk >>= next) (other >>= after) := by
  intro s
  rw [outcome_map, outcome_map]
  rcases agree_cases left walk other same s with ⟨part, rest, first, second⟩ | ⟨a, b, rest, first, second, lefts⟩
  · rw [outcome_bind_failed walk next s rest part first, outcome_bind_failed other after s rest part second]
  · rw [outcome_bind walk next s rest a first, outcome_bind other after s rest b second, ← outcome_map, ← outcome_map,
      agree a b lefts rest]

theorem agree_leaf (left : List Content → List Content) (ctx other : Context) (deco deco' : Decoration) (l : Mdast.Leaf)
    (same : left (ctx.leafContent deco l) = left (other.leafContent deco' l)) :
    AgreeOn left (ctx.convertNode deco (.leaf l)) (other.convertNode deco' (.leaf l)) := by
  rw [Context.convertNode, Context.convertNode]
  refine agree_bind (fun _ => ()) left _ _ _ _ (fun s => ?_) fun _ _ _ => agree_pure left _ _ same
  rw [outcome_map, outcome_map, outcome_remark, outcome_remark]

end MarkdownLayout
