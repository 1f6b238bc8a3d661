import ChannelServer.Receive
import ChannelServer.Responses
import ChannelServer.Capacity
import ChannelServer.Matching
import ChannelServer.Race
import ChannelServer.Rooms
import ChannelServer.Pending
import ChannelServer.Closed
import ChannelServer.Accepting
import ChannelServer.Logins
import ChannelServer.Authority
import ChannelServer.Recycle
import ChannelServer.Relays
import ChannelServer.Robustness
import ChannelServer.Search
import ChannelServer.Holders
import ChannelServer.Ownership
import ChannelServer.Connections
import ChannelServer.Lib.CappedSet
import ChannelServer.Users
import ChannelServer.FriendList
import ChannelServer.LoginOutcome
import ChannelServer.Requests
import ChannelServer.Startup
import ChannelServer.Commuting
import ChannelServer.Stores
import ChannelServer.Lookup
import ChannelServer.RoomTokens
import ChannelServer.Malformed
import ChannelServer.Lib.Quoting
import ChannelServer.Queries
import ChannelServer.Lib.Records
import ChannelServer.Lib.Varint
import ChannelServer.Protobuf.Runtime
import ChannelServer.Protobuf.Schema
import ChannelServer.Protobuf.Fields
import ChannelServer.Protobuf.Messages
import ChannelServer.Protobuf.Codec
import ChannelServer.Protobuf.Transport
import ChannelServer.Protobuf.Delivery
import ChannelServer.Buffers
import ChannelServer.Protobuf.Outbound
import ChannelServer.Faults
import ChannelServer.Lib.Scanning
import ChannelServer.Lib.Throwing
import ChannelServer.Redis.Replies
import ChannelServer.Redis.Requests
import ChannelServer.Redis.Connection
import ChannelServer.Redis.Outstanding
import ChannelServer.Redis.Reading
import ChannelServer.Redis.Moving
import ChannelServer.Redis.Arrival
import ChannelServer.Redis.Service
import ChannelServer.Redis.Pipelining
