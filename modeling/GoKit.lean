import GoKit.Endpoint
import GoKit.Sd.Cache
import GoKit.Sd.Run
import GoKit.Sd.Lifecycle
import GoKit.Sd.HappyPath
import GoKit.Sd.Invalidation
import GoKit.Sd.Concurrent
import GoKit.Lb.Balancer
import GoKit.Lb.Pool
import GoKit.Tracing
import GoKit.Tracing.Spans
import GoKit.Tracing.Runs
import GoKit.Resilience
import GoKit.Auth.Basic
import GoKit.Transport.Jsonrpc
import GoKit.Transport.Jsonrpc.Client
import GoKit.Transport.Amqp
import GoKit.Transport.Grpc
import GoKit.Transport.Nats
import GoKit.Transport.Awslambda
import GoKit.Addsvc
