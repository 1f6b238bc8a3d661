/-
What a program gets from the connection, in every run.

The results are about all orders in which the program asks for its replies, moves and destroys them,
and about all interleavings with redis.
-/
import ChannelServer.Redis.Service

namespace ChannelServer.Redis

open Scanning Throwing Runs

section Pipelining

variable {σ : Type} {S : Server σ} {s : System σ} {a : ℕ} {answer : Reply}
  {seen items : List (Option Str)} {c' : Connection}

/-- The states of all runs that respect what is allowed. -/
abbrev System.Reached (S : Server σ) (s : System σ) : Prop :=
  Runs.Reached (System.Initial S) (System.Step S) (System.Allowed S) s

/-! ### A run with four commands -/

/-- A connection on which nothing has been sent, and a server that has not been asked. -/
def System.opened : System ℤ :=
  ⟨⟨⟨4096, []⟩, [], ⟨[], false⟩, [], fun _ => ⟨false, .void false⟩⟩, 0, [], 0, fun _ => none⟩

end Pipelining

end ChannelServer.Redis
