import ExplorerProxy.Api.Handler
import ExplorerProxy.Proofs.Json.Records

/-!
# What clients read back

Every wire value is read back from its text as it was. So the body of an error tells a
client the code and the message that it was made of, whatever texts went into them, and
the statistics come out as the service had them.
-/

namespace ExplorerProxy.Wire

set_option autoImplicit false

/-- What is written for a value has the shape that is read, and stands for this value. -/
class LawfulWire (α : Type) [Wire α] : Prop where
  fits (a : α) : (shape α).Fits (toJson a)
  ofJson?_toJson (a : α) : ofJson? (toJson a) = some a

export LawfulWire (fits ofJson?_toJson)

theorem read_write {α : Type} [Wire α] [LawfulWire α] (a : α) : read α (write a) = .ok a := by
  rw [read, write, (fits a).read_write]
  simp only [ofJson?_toJson]

theorem toWord?_ofWord (n : UInt64) : toWord? (ofWord n) = some n := by
  have hn : 0 ≤ Int.ofNat n.toNat ∧ (Int.ofNat n.toNat).toNat < UInt64.size :=
    ⟨Int.natCast_nonneg _, n.toNat_lt⟩
  rw [ofWord, toWord?, if_pos hn]
  exact congrArg some UInt64.ofNat_toNat

instance : LawfulWire Network where
  fits n := .tag (List.mem_map_of_mem n.mem_all)
  ofJson?_toJson n := n.ofTag?_tag

instance : LawfulWire Subject where
  fits s := .record (by decide) (.cons (fits s.network) (.cons (.text _) .nil))
  ofJson?_toJson s := by
    change (ofJson? (toJson s.network)).map _ = _
    rw [ofJson?_toJson]
    rfl

instance : LawfulWire ErrorBody where
  fits _ := .record (by decide) (.cons (.text _) (.cons (.text _) .nil))
  ofJson?_toJson _ := rfl

instance : LawfulWire CacheStats where
  fits _ := .record (by decide)
    (.cons (.word _) (.cons (.word _) (.cons (.word _) (.cons (.word _) (.cons (.word _) .nil)))))
  ofJson?_toJson s := by
    simp only [ofJson?, toJson, toWord?_ofWord]
    rfl

instance : LawfulWire ServiceStats where
  fits s := .record (by decide) (.cons (fits s.holders) (.cons (fits s.abi) .nil))
  ofJson?_toJson s := by
    change (do return ⟨← ofJson? (toJson s.holders), ← ofJson? (toJson s.abi)⟩ :
      Option ServiceStats) = _
    rw [ofJson?_toJson, ofJson?_toJson]
    rfl

/-- The wire values of all types are read back as they were written; so are the bodies of
errors and of the statistics. -/
theorem read_back [Timer] :
    (∀ e : ErrorBody, read ErrorBody (write e) = .ok e) ∧
    (∀ s : Subject, read Subject (write s) = .ok s) ∧
    (∀ s : CacheStats, read CacheStats (write s) = .ok s) ∧
    (∀ s : ServiceStats, read ServiceStats (write s) = .ok s) ∧
    (∀ f : Api.Failure,
      read ErrorBody f.response.body = .ok ⟨f.statusCode.2, f.message⟩) ∧
    (∀ (source : Source) (w : Session),
      read ServiceStats (Api.handle source w "GET" "/stats").answer.body =
        .ok w.service.stats) := by
  refine ⟨read_write, read_write, read_write, read_write, fun f => read_write f.body, ?_⟩
  intro source w
  have hroute : Api.Route.ofPath? (Api.pathOf "/stats".toList) = some .stats := by decide
  have hbody : (Api.handle source w "GET" "/stats").answer.body = write w.service.stats := by
    simp only [Api.handle, hroute, if_true, Api.handleRoute, Api.Response.json]
  rw [hbody, read_write]

end ExplorerProxy.Wire
