import Mathlib.Data.List.Basic

/-!
# A server that answers one request after the other

The replies to a list of requests, and the state that answering them leaves.
-/
namespace WechatBot.SerialServer

variable {σ α β : Type*} (serve : α → σ → β × σ)

def after (s : σ) : List α → σ
  | [] => s
  | request :: requests => after (serve request s).2 requests

def replies (s : σ) : List α → List β
  | [] => []
  | request :: requests => (serve request s).1 :: replies (serve request s).2 requests

variable {serve} {s : σ}

theorem after_append (requests more : List α) :
    after serve s (requests ++ more) = after serve (after serve s requests) more := by
  induction requests generalizing s with
  | nil => rfl
  | cons request requests ih => exact ih

theorem replies_append (requests more : List α) :
    replies serve s (requests ++ more) =
      replies serve s requests ++ replies serve (after serve s requests) more := by
  induction requests generalizing s with
  | nil => rfl
  | cons request requests ih => exact congrArg _ ih

@[simp] theorem length_replies (requests : List α) :
    (replies serve s requests).length = requests.length := by
  induction requests generalizing s with
  | nil => rfl
  | cons request requests ih => simp [replies, ih]

/-- A reply is the answer to the request at its place, in the state that the requests before
it have left. -/
theorem getElem?_replies (requests : List α) (i : Nat) :
    (replies serve s requests)[i]? =
      requests[i]?.map fun request => (serve request (after serve s (requests.take i))).1 := by
  induction requests generalizing s i with
  | nil => rfl
  | cons request requests ih =>
    cases i with
    | zero => rfl
    | succ i => exact ih i

/-- The oldest of the replies that are left. -/
theorem drop_replies {requests : List α} {i : Nat} {reply : β} {rest : List β}
    (h : (replies serve s requests).drop i = reply :: rest) :
    ∃ request, requests[i]? = some request ∧
      reply = (serve request (after serve s (requests.take i))).1 ∧
      rest = (replies serve s requests).drop (i + 1) := by
  have hreply : (replies serve s requests)[i]? = some reply := by
    rw [← List.head?_drop, h, List.head?_cons]
  rw [getElem?_replies, Option.map_eq_some_iff] at hreply
  obtain ⟨request, hrequest, heq⟩ := hreply
  refine ⟨request, hrequest, heq.symm, ?_⟩
  rw [← List.tail_drop, h, List.tail_cons]

end WechatBot.SerialServer
