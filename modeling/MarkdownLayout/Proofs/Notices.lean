import MarkdownLayout.Proofs.Walk

set_option autoImplicit false

namespace MarkdownLayout

open Mdast

theorem remarks_bind {α β : Type} (walk : Walk α) (next : α → Walk β) (s after : Slugger) (a : α)
    (done : outcome walk s = (.ok a, after)) :
    remarks (walk >>= next) s = remarks walk s ++ remarks (next a) after := by
  change remarks walk s ++ (ExceptT.bindCont next (outcome walk s).1 (outcome walk s).2).notices = _
  rw [done]
  rfl

theorem remarks_bind_failed {α β : Type} (walk : Walk α) (next : α → Walk β) (s after : Slugger) (part : Misplaced)
    (failed : outcome walk s = (.error part, after)) : remarks (walk >>= next) s = remarks walk s := by
  change remarks walk s ++ (ExceptT.bindCont next (outcome walk s).1 (outcome walk s).2).notices = _
  rw [failed]
  exact List.append_nil _

theorem remarks_map {α β : Type} (f : α → β) (walk : Walk α) (s : Slugger) :
    remarks (f <$> walk) s = remarks walk s := by
  rw [map_eq_pure_bind]
  cases ran : outcome walk s with
  | mk result after =>
      cases result with
      | error part => exact remarks_bind_failed walk _ s after part ran
      | ok a => exact (remarks_bind walk _ s after a ran).trans (List.append_nil _)

namespace Context

def unresolved (ctx : Context) (sequence : List Visit) : List String :=
  ((sequence.takeWhile fun visit => visit.part?.isNone).filterMap Visit.imageUrl?).filter fun url =>
    (ctx.images.get? url).isNone

theorem unresolved_cons (ctx : Context) (visit : Visit) (rest : List Visit) (clear : visit.part? = none) :
    ctx.unresolved (visit :: rest) = ctx.unresolved [visit] ++ ctx.unresolved rest := by
  cases isImage : visit.imageUrl? with
  | none => simp [unresolved, clear, isImage]
  | some url =>
      have split := List.filter_append (p := fun url => (ctx.images.get? url).isNone) [url]
        ((rest.takeWhile fun visit => visit.part?.isNone).filterMap Visit.imageUrl?)
      simpa [unresolved, clear, isImage] using split

theorem remark_notices (ctx : Context) (l : Leaf) (s : Slugger) :
    remarks (ctx.remark l) s = (ctx.unresolved [.leave (.leaf l)]).map .noImageData := by
  cases l with
  | image url alt title =>
      rw [remark]
      cases missing : (ctx.images.get? url).isNone <;>
        simp [unresolved, Visit.part?, Visit.imageUrl?, imageUrl?, missing] <;> rfl
  | _ => rfl

theorem visit_notices (ctx : Context) (visit : Visit) (s : Slugger) (clear : visit.part? = none) :
    remarks (ctx.visit visit) s = (ctx.unresolved [visit]).map .noImageData := by
  cases visit with
  | enter node =>
      have silent : ctx.unresolved [.enter node] = [] := by simp [unresolved, clear, Visit.imageUrl?]
      rw [silent, Context.visit]
      cases tablePart? node <;> rfl
  | leave node =>
      cases node with
      | leaf l =>
          rw [Context.visit, remarks_bind _ _ s s () (outcome_remark ctx l s), remark_notices]
          exact List.append_nil _
      | parent p children => cases p <;> rfl
      | _ => rfl

theorem follow_notices (ctx : Context) (sequence : List Visit) (s : Slugger) :
    remarks (ctx.follow sequence) s = (ctx.unresolved sequence).map .noImageData := by
  induction sequence generalizing s with
  | nil => rfl
  | cons visit rest ih =>
      cases isPart : visit.part? with
      | some part =>
          cases visit with
          | enter node =>
              rw [follow_part ctx node rest part isPart, unresolved, List.takeWhile_cons_of_neg (by simp [isPart])]
              rfl
          | leave node => cases isPart
      | none =>
          obtain ⟨found, ran, -⟩ := visit_outcome ctx visit s isPart
          rw [follow, remarks_bind _ _ _ _ _ ran, visit_notices ctx visit s isPart, unresolved_cons ctx visit rest isPart,
            List.map_append, ← ih, ← remarks_map (found ++ ·) (ctx.follow rest), map_eq_pure_bind]

theorem notices_name_images_without_data (ctx : Context) (deco : Decoration) (nodes : List Node) (s : Slugger) :
    ctx.noticesOf deco nodes s = (ctx.unresolved (visits nodes)).map .noImageData := by
  rw [← follow_notices ctx (visits nodes) s, ← convert_follows_visits ctx deco nodes, remarks_map]
  rfl

end Context

end MarkdownLayout
