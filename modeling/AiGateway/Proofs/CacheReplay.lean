import AiGateway.Proofs.CacheCompleteness

/-! What a hit gives back. Each chunk is converted to text on its own, so a character cut
in two by a chunk boundary is not the character the provider sent. -/

namespace AiGateway.Proofs
open CacheTee KvCache Lib.Utf8 Lib.Runs

theorem hit_body (http : HeaderSyntax) (entry : LlmCacheEntry) (bucketIdx : Nat) (chunks : List (List UInt8))
    (body : entry.body = chunks.map Text.ofBytesLossy) :
    (buildLlmCacheHitResponse http entry bucketIdx).body.flatten = chunks.flatMap lossy := by
  simp [buildLlmCacheHitResponse, body, Text.ofBytesLossy, List.flatMap_def, Function.comp_def]

/-- The entry of a body read to its end replays that body exactly when no chunk boundary
falls inside a character. -/
theorem replay_faithful_iff (http : HeaderSyntax) (bucketIdx : Nat) (config : SaveConfig)
    (chunks : List (List UInt8)) (events : List TeeEvent) (final : TeeState) (request : SaveRequest)
    (ran : run (teeStep config) (.start config (chunks.map .ok)) events = some final)
    (readToEnd : final.upstream = []) (saved : final.task = .ended (some request)) :
    (buildLlmCacheHitResponse http request.entry bucketIdx).body.flatten = chunks.flatten ↔
      ∀ chunk ∈ chunks, valid chunk = true := by
  obtain ⟨split, body⟩ := saved_is_delivered ran saved
  rw [readToEnd, List.append_nil] at split
  rw [split, chunksOf_map_ok] at body
  rw [hit_body http request.entry bucketIdx chunks body]
  exact flatMap_lossy_eq_iff chunks

def plainHeaders : HeaderSyntax where
  isName name := !name.isEmpty && name.all fun byte => (97 ≤ byte && byte ≤ 122) || byte == 45
  isValue value := value.all fun byte => 32 ≤ byte && byte != 127

def twoChunkEvents : List TeeEvent :=
  [.poll, .poll, .poll, .dropBody, .dispatchReturns, .receive, .receive, .closed 7]

def twoChunkFinal (first second : List UInt8) : TeeState :=
  ⟨[], [.ok first, .ok second], false, false, [], .ended (some (savedBody [first, second]))⟩

theorem whole_characters_replayed :
    (buildLlmCacheHitResponse plainHeaders (savedBody [[104, 105], [195, 169]]).entry 0).body.flatten =
      [104, 105, 195, 169] :=
  (replay_faithful_iff plainHeaders 0 writingConfig [[104, 105], [195, 169]] twoChunkEvents
    (twoChunkFinal [104, 105] [195, 169]) _ rfl rfl rfl).mpr (by decide +kernel)

/-- `é` is cut between its two bytes: the body is valid text, its chunks are not. -/
theorem cut_character_not_replayed :
    ¬ ∀ (config : SaveConfig) (chunks : List (List UInt8)) (events : List TeeEvent) (final : TeeState)
      (request : SaveRequest), valid chunks.flatten = true →
      run (teeStep config) (.start config (chunks.map .ok)) events = some final → final.upstream = [] →
      final.task = .ended (some request) →
        (buildLlmCacheHitResponse plainHeaders request.entry 0).body.flatten = chunks.flatten := by
  intro faithful
  have replayed := faithful writingConfig [[195], [169]] twoChunkEvents (twoChunkFinal [195] [169])
    (savedBody [[195], [169]]) (by decide +kernel) rfl rfl rfl
  exact absurd replayed (by decide +kernel)

end AiGateway.Proofs
