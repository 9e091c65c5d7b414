import Synapse.Tensor.Basic
import Synapse.Tensor.Shape
import Synapse.Tensor.Masked
import Synapse.Tensor.Properties.Views
import Synapse.Tensor.Properties.Broadcast
import Synapse.Tensor.Properties.Reshape
import Synapse.Tensor.Properties.Chain
import Synapse.Engine.Context
import Synapse.Engine.Shutdown
import Synapse.Client.UseConfig
import Synapse.Server.Flight
