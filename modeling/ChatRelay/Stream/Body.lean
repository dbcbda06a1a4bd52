import ChatRelay.Stream.Flow

/-!
# Bodies

A body is a sequence of chunks, behind which the sender may fail. As a source it is lazy: every chunk
is asked for, and a failure strikes when what lies behind the last chunk is asked for.
-/

namespace ChatRelay

/-- The chunks of a body, and the failure, if any, behind the last of them. -/
structure Body (α : Type) where
  chunks : List α
  failure : Option Failure

namespace Body

variable {α : Type}

/-- The body as a source: the network is asked for every chunk, and for the end. -/
def flow (body : Body α) : Flow Effect α :=
  ⟨body.chunks.flatMap (fun c => [.effect .poll, .yield c]) ++ [.effect .poll], body.failure⟩

end Body

end ChatRelay
